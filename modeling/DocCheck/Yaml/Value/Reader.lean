import DocCheck.Text.Quoted
import DocCheck.Yaml.Document
import DocCheck.Yaml.Scalar

/-!
# Values from YAML text

`Value.read` reads a text with one document. Scalars are resolved, the tags of the core types ask
for their type, other tags that start with an exclamation mark are kept with the value, and aliases
are replaced by what they stand for, within limits on nesting and on the number of replacements.

* `ReadError`, `ReadError.message` — why a text has no value;
* `Reader.value` — the value of a node;
* `Value.read` — the value of a text.
-/

namespace DocCheck.Yaml

/-! ### Errors -/

/-- One step of the way to a node. -/
inductive PathStep where
  /-- To an item. -/
  | index (i : Nat)
  /-- To the value of a key, named by the key's text. -/
  | key (text : String)
  /-- To the value of a key that is no scalar. -/
  | unknown
  deriving DecidableEq

/-- The way to a node, its last step first. -/
abbrev NodePath : Type := List PathStep

/-- The wording of a way to a node. -/
def pathMessage : NodePath → String
  | [] => "."
  | .index i :: rest => pathMessage rest ++ "[" ++ toString i ++ "]"
  | .key text :: rest => (if rest.isEmpty then "" else pathMessage rest ++ ".") ++ text
  | .unknown :: rest => (if rest.isEmpty then "" else pathMessage rest ++ ".") ++ "?"

/-- What is wrong with a node. -/
inductive NodeFault where
  /-- A mapping has a key twice; this is the first of the two. -/
  | duplicateKey (key : Value)
  /-- A scalar is not of the type that its tag asks for. -/
  | mistyped (text expected : String)
  /-- An integer too great for 64 bits. -/
  | wideInteger (n : Integer)

namespace NodeFault

/-- The wording of a fault. -/
def message : NodeFault → String
  | duplicateKey key =>
    "duplicate entry " ++
      match key with
      | .null => "with null key"
      | .bool b => "with key \x60" ++ (if b then "true" else "false") ++ "\x60"
      | .num n => "with key " ++ renderNumber n
      | .str s => "with key " ++ Text.quoted s
      | _ => "in YAML map"
  | mistyped text expected =>
    "invalid value: string " ++ Text.quoted text ++ ", expected " ++ expected
  | wideInteger (.wideSigned n) => refused n "i128"
  | wideInteger (.wideUnsigned n) => refused n "u128"
  | wideInteger (.narrow n) => refused n "i64"
where
  /-- The wording for an integer without value. -/
  refused (n : Int) (type : String) : String :=
    "invalid type: integer \x60" ++ DecimalStyle.intDigits n ++ "\x60 as " ++ type
      ++ ", expected any YAML value"

end NodeFault

/-- Why a text has no value. -/
inductive ReadError where
  /-- The text is no YAML. -/
  | syntaxError (error : SyntaxError)
  /-- An alias whose name no node has. -/
  | unknownAnchor (place : Mark)
  /-- Something is wrong with a node. -/
  | node (fault : NodeFault) (path : NodePath) (place : Mark)
  /-- Nested too deep. -/
  | tooDeep (place : Mark)
  /-- Too many aliases. -/
  | tooManyAliases
  /-- More than one document. -/
  | severalDocuments
  /-- The text ends inside a document. -/
  | endOfText

namespace ReadError

/-- The wording of a place behind an error. -/
def atPlace (m : Mark) : String := if m.isStart then "" else " at " ++ m.message

/-- The wording of an error. The way to the root is not named. -/
def message : ReadError → String
  | syntaxError e => e.message
  | unknownAnchor m => "unknown anchor" ++ atPlace m
  | node fault path m =>
    (if path.isEmpty then "" else pathMessage path ++ ": ") ++ fault.message ++ atPlace m
  | tooDeep m => "recursion limit exceeded" ++ atPlace m
  | tooManyAliases => "repetition limit exceeded"
  | severalDocuments =>
    "deserializing from YAML containing more than one document is not supported"
  | endOfText => "EOF while parsing a value"

end ReadError

/-! ### Tags -/

/-- A name without an exclamation mark in front, unless it is nothing else. -/
def withoutMark : List Char → List Char
  | '!' :: c :: rest => c :: rest
  | cs => cs

/-- The tag that a value keeps: one that is text and starts with an exclamation mark. Up to two of
them are no part of its name. -/
def ownTag? (tag : Option TagName) : Option String :=
  (tag.bind fun bytes => String.fromUTF8? ⟨bytes.toArray⟩).bind fun t =>
    if t.toList.head? == some '!' then some (String.ofList (withoutMark (withoutMark t.toList)))
    else none

/-- Whether a tag starts with an exclamation mark. -/
def hasMark (tag : TagName) : Bool := tag.head? == some 0x21

/-- The value of a plain scalar. -/
def plainScalar (text : String) : Except NodeFault Value :=
  (Scalar.resolve text).mapError .wideInteger

/-- The value of a scalar that asks for a core type. -/
def coreScalar (tag : Option String) (text : String) : Except NodeFault Value :=
  if tag = "tag:yaml.org,2002:bool" then
    match Scalar.bool? text with
    | some b => .ok (.bool b)
    | none => .error (.mistyped text "a boolean")
  else if tag = "tag:yaml.org,2002:int" then
    match Scalar.integer? text with
    | some (.narrow n) => .ok (.num (.int n))
    | some wide => .error (.wideInteger wide)
    | none => .error (.mistyped text "an integer")
  else if tag = "tag:yaml.org,2002:float" then
    match Scalar.float? text with
    | some x => .ok (.num (.float x))
    | none => .error (.mistyped text "a float")
  else if tag = "tag:yaml.org,2002:null" then
    if Scalar.isNull text then .ok .null else .error (.mistyped text "null")
  else .ok (.str text)

/-- The value of a scalar whose tag, if any, is not kept. -/
def scalarValue (tag : Option TagName) (text : String) (plain : Bool) : Except NodeFault Value :=
  match tag with
  | some t =>
    if hasMark t && plain then plainScalar text
    else coreScalar (String.fromUTF8? ⟨t.toArray⟩) text
  | none => if plain then plainScalar text else .ok (.str text)

/-! ### Nodes -/

/-- How deep lists and mappings may be nested. -/
def deepest : Nat := 128

/-- Where reading a document stands. -/
structure Reader where
  /-- The number of the next node. -/
  position : Nat
  /-- How many aliases have been replaced. -/
  jumps : Nat

/-- What a node's value depends on beside the node. -/
structure Surroundings where
  /-- The way to the node. -/
  path : NodePath
  /-- How many more levels of nesting are allowed. -/
  depth : Nat
  /-- Whether the node's own tag has been dealt with. -/
  tagged : Bool

namespace Reader

variable (d : Document)

/-- The node at a position. -/
def node (position : Nat) : Except ReadError (Node × Mark) :=
  match d.nodes[position]? with
  | some n => .ok n
  | none =>
    match d.fault with
    | some (.syntaxError e) => .error (.syntaxError e)
    | some (.unknownAnchor m) => .error (.unknownAnchor m)
    | none => .error .endOfText

/-- One level deeper. -/
def deeper (w : Surroundings) (m : Mark) : Except ReadError Surroundings :=
  if w.depth = 0 then .error (.tooDeep m) else .ok { w with depth := w.depth - 1 }

/-- The surroundings of an item or of an entry's value. -/
def below (w : Surroundings) (s : PathStep) : Surroundings :=
  { w with path := s :: w.path, tagged := false }

/-- The step to the value behind a key. -/
def stepBehind : Node → PathStep
  | .scalar _ text _ => .key text
  | _ => .unknown

mutual

/-- The value of the next node. The fuel bounds how deep reading nests. -/
def value : Nat → Surroundings → Reader → Except ReadError (Value × Reader)
  | 0, _, _ => .error .endOfText
  | fuel + 1, w, r => do
    let (n, m) ← node d r.position
    let next : Reader := { r with position := r.position + 1 }
    let own? (tag : Option TagName) := if w.tagged then none else ownTag? tag
    match n with
    | .aliasNumber number =>
      if d.nodes.size * 100 < r.jumps + 1 then .error .tooManyAliases
      else
        let target := ((d.anchors.find? fun a => a.1 == number).map Prod.snd).getD 0
        -- Reading goes on behind the alias; only the count of jumps comes back.
        let (v, back) ← value fuel { w with tagged := false } ⟨target, r.jumps + 1⟩
        .ok (v, { next with jumps := back.jumps })
    | .scalar tag text plain =>
      match own? tag with
      | some t =>
        let (v, r) ← value fuel { w with tagged := true } r
        .ok (.tagged t v, r)
      | none =>
        match scalarValue (if w.tagged then none else tag) text plain with
        | .ok v => .ok (v, next)
        | .error fault => .error (.node fault w.path m)
    | .sequenceStart tag =>
      match own? tag with
      | some t =>
        let (v, r) ← value fuel { w with tagged := true } r
        .ok (.tagged t v, r)
      | none => items fuel (← deeper w m) [] next
    | .mappingStart tag =>
      match own? tag with
      | some t =>
        let (v, r) ← value fuel { w with tagged := true } r
        .ok (.tagged t v, r)
      | none => entries fuel (← deeper w m) m [] next
    | .sequenceEnd | .mappingEnd => .error .endOfText
  termination_by structural fuel => fuel

/-- The items of a list, those before in reverse. -/
def items : Nat → Surroundings → List Value → Reader → Except ReadError (Value × Reader)
  | 0, _, _, _ => .error .endOfText
  | fuel + 1, w, before, r => do
    let (n, _) ← node d r.position
    match n with
    | .sequenceEnd => .ok (.seq before.reverse, { r with position := r.position + 1 })
    | _ =>
      let (v, r) ← value fuel (below w (.index before.length)) r
      items fuel w (v :: before) r
  termination_by structural fuel => fuel

/-- The entries of a mapping that starts at `m`, those before in reverse. The keys of a tagged
mapping do not keep tags of their own. -/
def entries : Nat → Surroundings → Mark → List (Value × Value) → Reader →
    Except ReadError (Value × Reader)
  | 0, _, _, _, _ => .error .endOfText
  | fuel + 1, w, m, before, r => do
    let (n, _) ← node d r.position
    match n with
    | .mappingEnd => .ok (.map before.reverse, { r with position := r.position + 1 })
    | _ =>
      -- A key is read at the place of its mapping, so faults in it name the mapping.
      let (k, r) ← value fuel w r
      match before.find? fun e => Value.same e.1 k with
      | some (first, _) => .error (.node (.duplicateKey first) w.path m)
      | none =>
        let (v, r) ← value fuel (below w (stepBehind n)) r
        entries fuel w m ((k, v) :: before) r
  termination_by structural fuel => fuel

end

end Reader

/-- The value of a document. Faults of its nodes come before a fault that ends them too early. -/
def Document.value (d : Document) : Except ReadError Value := do
  let v ←
    if d.nodes.isEmpty && d.fault.isNone then .ok .null
    else
      let fuel := (deepest + 2) * (d.nodes.size + 4)
      (Reader.value d fuel ⟨[], deepest, false⟩ ⟨0, 0⟩).map Prod.fst
  match d.fault with
  | some (.syntaxError e) => .error (.syntaxError e)
  | some (.unknownAnchor m) => .error (.unknownAnchor m)
  | none => if d.more then .error .severalDocuments else .ok v

/-- The value of a text with one document. -/
def Value.read (text : String) : Except ReadError Value := (Document.ofText text).value

end DocCheck.Yaml
