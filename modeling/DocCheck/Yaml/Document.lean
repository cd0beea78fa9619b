import DocCheck.Yaml.Event.Stream

/-!
# The document of a text

The events of the first document of a text, with anchors counted and aliases turned into numbers. A
text with nothing in it is a document without events.

The number of an anchor is how many names were known before it; a name that is given a second time
gets a new number in the same way. An alias stands for the number that its name has at that place,
and a number for the last node that got it.
-/

namespace DocCheck.Yaml

/-- What ends the events of a document too early. -/
inductive DocumentFault where
  /-- A fault of syntax. -/
  | syntaxError (error : SyntaxError)
  /-- An alias whose name no node has. -/
  | unknownAnchor (place : Mark)
  deriving DecidableEq

/-- A node of a document, or the end of a collection. -/
inductive Node where
  /-- A reference to the node with this number. -/
  | aliasNumber (number : Nat)
  /-- A scalar, and whether it is plain. -/
  | scalar (tag : Option TagName) (text : String) (plain : Bool)
  /-- The start of a list. -/
  | sequenceStart (tag : Option TagName)
  /-- The end of a list. -/
  | sequenceEnd
  /-- The start of a mapping. -/
  | mappingStart (tag : Option TagName)
  /-- The end of a mapping. -/
  | mappingEnd
  deriving DecidableEq, Inhabited

/-- The first document of a text. -/
structure Document where
  /-- Its nodes in order, with their places. -/
  nodes : Array (Node × Mark)
  /-- Where the numbered nodes are, the latest first. -/
  anchors : List (Nat × Nat)
  /-- What ends the nodes too early. -/
  fault : Option DocumentFault
  /-- Whether something other than the end of the text follows. -/
  more : Bool

namespace Document

/-- A document whose nodes have not all been read. -/
structure Building where
  /-- The nodes so far. -/
  nodes : Array (Node × Mark)
  /-- The numbers of the names so far. -/
  names : List (String × Nat)
  /-- Where the numbered nodes are, the latest first. -/
  anchors : List (Nat × Nat)

namespace Building

def add (n : Node) (m : Mark) (b : Building) : Building := { b with nodes := b.nodes.push (n, m) }

/-- Numbers the node that comes next, if it has a name. -/
def name (anchor : Option String) (b : Building) : Building :=
  match anchor with
  | none => b
  | some a =>
    let n := b.names.length
    { b with
      names := (a, n) :: b.names.filter (fun x => x.1 != a)
      anchors := (n, b.nodes.size) :: b.anchors }

/-- The document that these nodes make up. -/
def finish (fault : Option DocumentFault) (more : Bool) (b : Building) : Document :=
  ⟨b.nodes, b.anchors, fault, more⟩

end Building

/-- Whether something other than the end of the text follows a document. -/
def hasMore : List Event → Bool
  | ⟨.streamEnd, _⟩ :: _ => false
  | _ => true

/-- Collects the nodes of a document up to its end. -/
def collect (fault : Option SyntaxError) : List Event → Building → Document
  | [], b => b.finish (fault.map .syntaxError) true
  | e :: rest, b =>
    match e.kind with
    | .streamStart | .documentStart => collect fault rest b
    | .streamEnd => b.finish none false
    | .documentEnd => b.finish none (hasMore rest)
    | .aliasName name =>
      match b.names.find? fun x => x.1 == name with
      | some (_, n) => collect fault rest (b.add (.aliasNumber n) e.mark)
      | none => b.finish (some (.unknownAnchor e.mark)) true
    | .scalar p text plain =>
      collect fault rest ((b.name p.anchor).add (.scalar p.tag text plain) e.mark)
    | .sequenceStart p => collect fault rest ((b.name p.anchor).add (.sequenceStart p.tag) e.mark)
    | .sequenceEnd => collect fault rest (b.add .sequenceEnd e.mark)
    | .mappingStart p => collect fault rest ((b.name p.anchor).add (.mappingStart p.tag) e.mark)
    | .mappingEnd => collect fault rest (b.add .mappingEnd e.mark)

/-- The first document of a text. -/
def ofText (text : String) : Document :=
  let (events, fault) := Event.stream text
  collect fault events ⟨#[], [], []⟩

end Document

end DocCheck.Yaml
