import DocCheck.Yaml.Event
import DocCheck.Yaml.Token.Stream

/-!
# The events of a text

Tokens are turned into events by a machine with a stack: on top is what is expected next, below it
what is expected after that. Each step takes some tokens and gives one event.

* `Expectation` — what may be expected;
* `Parser.step` — the next event;
* `Event.stream` — the events of a text in order, up to the first fault.
-/

namespace DocCheck.Yaml

/-- What is expected of the tokens that follow. -/
inductive Expectation where
  /-- The start of the text. -/
  | stream
  /-- A document, which needs no mark if it is the first. -/
  | documentStart (first : Bool)
  /-- The root of a document behind its mark. -/
  | documentContent
  /-- The end of a document. -/
  | documentEnd
  /-- A node in block style. -/
  | blockNode
  /-- An entry of a block list. -/
  | blockEntry (first : Bool)
  /-- An entry of a list at the column of its parent. -/
  | indentlessEntry
  /-- A key of a block mapping. -/
  | blockKey (first : Bool)
  /-- A value of a block mapping. -/
  | blockValue
  /-- An entry of a list in brackets. -/
  | flowEntry (first : Bool)
  /-- The key of a mapping of one pair in brackets. -/
  | pairKey
  /-- The value of such a mapping. -/
  | pairValue
  /-- The end of such a mapping. -/
  | pairEnd
  /-- A key in braces. -/
  | flowKey (first : Bool)
  /-- A value in braces. -/
  | flowValue
  /-- A value in braces that is left out. -/
  | flowEmptyValue
  /-- Nothing more. -/
  | nothing
  deriving DecidableEq

/-- Where turning tokens into events stands. -/
structure Parser where
  /-- The tokens that follow. -/
  tokens : List Token
  /-- The fault that ends them, if there is one. -/
  fault : Option SyntaxError
  /-- What is expected next. -/
  state : Expectation
  /-- What is expected after that, nearest first. -/
  states : List Expectation
  /-- Where the open collections start, innermost first. -/
  marks : List Mark
  /-- What tag handles stand for. -/
  handles : List (String × TagName)

namespace Parser

def peek (p : Parser) : Except SyntaxError Token :=
  match p.tokens, p.fault with
  | t :: _, _ => .ok t
  | [], some e => .error e
  | [], none => .ok ⟨.streamEnd, .zero, .zero⟩

def skip (p : Parser) : Parser := { p with tokens := p.tokens.drop 1 }

/-- Goes on with what is expected after this. -/
def pop (p : Parser) : Parser :=
  { p with state := p.states.head?.getD .nothing, states := p.states.drop 1 }

/-- Remembers what is expected after this. -/
def push (e : Expectation) (p : Parser) : Parser := { p with states := e :: p.states }

def expect (e : Expectation) (p : Parser) : Parser := { p with state := e }

/-- Opens a collection whose first token comes next, and passes over that token. -/
def openMark (t : Token) (p : Parser) : Parser := { p.skip with marks := t.start :: p.marks }

def closeMark (p : Parser) : Parser := { p with marks := p.marks.drop 1 }

/-- A fault inside the innermost collection. -/
def failInside {α : Type} (context : Context) (problem : Problem) (t : Token) (p : Parser) :
    Except SyntaxError α :=
  .error (.within context (p.marks.head?.getD .zero) problem t.start)

/-- An event and the machine behind it. -/
abbrev Step : Type := Event × Parser

/-- A node that is left out. -/
def emptyScalar (m : Mark) (p : Parser) : Step := (⟨.scalar .none "" true, m⟩, p)

/-! ### Directives -/

/-- The handles that need no directive. -/
def standardHandles : List (String × TagName) :=
  [("!", .ofText "!"), ("!!", .ofText "tag:yaml.org,2002:")]

/-- Reads the directives of a document. The fuel bounds the tokens. -/
def directives : Nat → Bool → Parser → Except SyntaxError Parser
  | 0, _, p => .ok p
  | fuel + 1, versioned, p => do
    let t ← p.peek
    match t.kind with
    | .version major minor =>
      if versioned then .error (.bare .duplicateVersion t.start)
      else if major = 1 && (minor = 1 || minor = 2) then directives fuel true p.skip
      else .error (.bare .incompatibleVersion t.start)
    | .tagDirective handle replacement =>
      if p.handles.any fun h => h.1 == handle then .error (.bare .duplicateTagDirective t.start)
      else
        directives fuel versioned { p.skip with handles := p.handles ++ [(handle, replacement)] }
    | _ =>
      let missing := standardHandles.filter fun h => !p.handles.any fun k => k.1 == h.1
      .ok { p with handles := p.handles ++ missing }

/-! ### Nodes -/

/-- The tag in full that a handle and a suffix stand for. -/
def fullTag (p : Parser) (start : Mark) (handle : String) (suffix : TagName) (m : Mark) :
    Except SyntaxError TagName :=
  if handle = "" then .ok suffix
  else
    match p.handles.find? fun h => h.1 == handle with
    | some h => .ok (h.2 ++ suffix)
    | none => .error (.within .node start .undefinedTagHandle m)

/-- The name and the tag in front of a node, in either order. -/
structure NodeHead where
  /-- The name. -/
  anchor : Option String
  /-- The handle and the suffix of the tag, and where it starts. -/
  tag : Option (String × TagName × Mark)

/-- Reads the name and the tag in front of a node. -/
def nodeHead (p : Parser) : Except SyntaxError (NodeHead × Parser) := do
  let t ← p.peek
  match t.kind with
  | .anchor a =>
    let p := p.skip
    let u ← p.peek
    match u.kind with
    | .tag h s => .ok (⟨some a, some (h, s, u.start)⟩, p.skip)
    | _ => .ok (⟨some a, none⟩, p)
  | .tag h s =>
    let p := p.skip
    let u ← p.peek
    match u.kind with
    | .anchor a => .ok (⟨some a, some (h, s, t.start)⟩, p.skip)
    | _ => .ok (⟨none, some (h, s, t.start)⟩, p)
  | _ => .ok (⟨none, none⟩, p)

/-- The fault that no node stands where one is needed. -/
def missingNode {α : Type} (block : Bool) (start : Mark) (t : Token) : Except SyntaxError α :=
  .error (.within (if block then .blockNode else .flowNode) start .missingNode t.start)

/-- Reads a node, or its start if it is a collection. -/
def node (block indentless : Bool) (p : Parser) : Except SyntaxError Step := do
  let first ← p.peek
  match first.kind with
  | .aliasName name => .ok (⟨.aliasName name, first.start⟩, p.pop.skip)
  | _ =>
    let start := first.start
    let (head, p) ← p.nodeHead
    let t ← p.peek
    let tag ←
      match head.tag with
      | none => .ok none
      | some (handle, suffix, m) => (p.fullTag start handle suffix m).map some
    let properties : Properties := ⟨head.anchor, tag⟩
    let bare := head.anchor.isNone && tag.isNone
    match t.kind, block with
    | .blockEntry, _ =>
      if indentless then .ok (⟨.sequenceStart properties, start⟩, p.expect .indentlessEntry)
      else if bare then missingNode block start t
      else .ok (⟨.scalar properties "" true, start⟩, p.pop)
    | .scalar text plain, _ => .ok (⟨.scalar properties text plain, start⟩, p.pop.skip)
    | .flowSequenceStart, _ =>
      .ok (⟨.sequenceStart properties, start⟩, p.expect (.flowEntry true))
    | .flowMappingStart, _ => .ok (⟨.mappingStart properties, start⟩, p.expect (.flowKey true))
    | .blockSequenceStart, true =>
      .ok (⟨.sequenceStart properties, start⟩, p.expect (.blockEntry true))
    | .blockMappingStart, true =>
      .ok (⟨.mappingStart properties, start⟩, p.expect (.blockKey true))
    | _, _ =>
      if bare then missingNode block start t
      else .ok (⟨.scalar properties "" true, start⟩, p.pop)

/-- Whether a token is one of those that leave a node out. -/
def leavesOut (ks : List TokenKind) (t : Token) : Bool := ks.contains t.kind

/-- Reads a node and then expects `next`, or leaves the node out where one of the given tokens
comes next. -/
def nodeUnless (ks : List TokenKind) (block indentless : Bool) (next : Expectation) (m : Mark)
    (p : Parser) : Except SyntaxError Step := do
  let t ← p.peek
  if leavesOut ks t then .ok ((p.expect next).emptyScalar m)
  else (p.push next).node block indentless

/-! ### Documents -/

/-- Passes over marks of documents' ends. -/
def skipDocumentEnds (p : Parser) : Parser :=
  { p with tokens := p.tokens.dropWhile fun t => t.kind == .documentEnd }

/-- Reads the start of a document, or the end of the text. -/
def documentStart (first : Bool) (p : Parser) : Except SyntaxError Step := do
  let p := if first then p else p.skipDocumentEnds
  let t ← p.peek
  match t.kind, first with
  | .streamEnd, _ => .ok (⟨.streamEnd, t.start⟩, (p.expect .nothing).skip)
  -- Only the first document needs no mark, and only if it has no directives.
  | .version .., _ | .tagDirective .., _ | .documentStart, _ | _, false => do
    let p ← p.directives (p.tokens.length + 1) false
    let u ← p.peek
    if u.kind = .documentStart then
      .ok (⟨.documentStart, t.start⟩, ((p.push .documentEnd).expect .documentContent).skip)
    else .error (.bare .missingDocumentStart u.start)
  | _, true => do
    let p ← p.directives (p.tokens.length + 1) false
    .ok (⟨.documentStart, t.start⟩, (p.push .documentEnd).expect .blockNode)

/-- Reads the root of a document behind its mark, which may be left out. -/
def documentContent (p : Parser) : Except SyntaxError Step := do
  let t ← p.peek
  match t.kind with
  | .version .. | .tagDirective .. | .documentStart | .documentEnd | .streamEnd =>
    .ok (p.pop.emptyScalar t.start)
  | _ => p.node true false

/-- Reads the end of a document. What its directives said is forgotten. -/
def documentEnd (p : Parser) : Except SyntaxError Step := do
  let t ← p.peek
  let p := if t.kind = .documentEnd then p.skip else p
  .ok (⟨.documentEnd, t.start⟩, { p.expect (.documentStart false) with handles := [] })

/-! ### Block collections -/

/-- Reads an entry of a block list, or its end. -/
def blockEntry (first : Bool) (p : Parser) : Except SyntaxError Step := do
  let t ← p.peek
  let p := if first then p.openMark t else p
  let t ← p.peek
  match t.kind with
  | .blockEntry =>
    p.skip.nodeUnless [.blockEntry, .blockEnd] true false (.blockEntry false) t.stop
  | .blockEnd => .ok (⟨.sequenceEnd, t.start⟩, p.pop.closeMark.skip)
  | _ => p.failInside .blockCollection .missingEntry t

/-- Reads an entry of a list at the column of its parent, or its end. -/
def indentlessEntry (p : Parser) : Except SyntaxError Step := do
  let t ← p.peek
  match t.kind with
  | .blockEntry =>
    p.skip.nodeUnless [.blockEntry, .key, .value, .blockEnd] true false .indentlessEntry t.stop
  | _ => .ok (⟨.sequenceEnd, t.start⟩, p.pop)

/-- Reads a key of a block mapping, or its end. -/
def blockKey (first : Bool) (p : Parser) : Except SyntaxError Step := do
  let t ← p.peek
  let p := if first then p.openMark t else p
  let t ← p.peek
  match t.kind with
  | .key => p.skip.nodeUnless [.key, .value, .blockEnd] true true .blockValue t.stop
  | .blockEnd => .ok (⟨.mappingEnd, t.start⟩, p.pop.closeMark.skip)
  | _ => p.failInside .blockMapping .missingKey t

/-- Reads a value of a block mapping, which may be left out with its colon. -/
def blockValue (p : Parser) : Except SyntaxError Step := do
  let t ← p.peek
  match t.kind with
  | .value => p.skip.nodeUnless [.key, .value, .blockEnd] true true (.blockKey false) t.stop
  | _ => .ok ((p.expect (.blockKey false)).emptyScalar t.start)

/-! ### Flow collections -/

/-- Reads the comma between entries, unless this is the first one or the end follows. -/
def flowComma (first : Bool) (close : TokenKind) (context : Context) (problem : Problem)
    (p : Parser) : Except SyntaxError Parser := do
  let t ← p.peek
  if first || t.kind = close then .ok p
  else if t.kind = .flowEntry then .ok p.skip
  else p.failInside context problem t

/-- Reads an entry in brackets, or the closing bracket. -/
def flowEntry (first : Bool) (p : Parser) : Except SyntaxError Step := do
  let t ← p.peek
  let p := if first then p.openMark t else p
  let p ← p.flowComma first .flowSequenceEnd .flowSequence .missingCommaOrBracket
  let t ← p.peek
  match t.kind with
  | .key => .ok (⟨.mappingStart .none, t.start⟩, (p.expect .pairKey).skip)
  | .flowSequenceEnd => .ok (⟨.sequenceEnd, t.start⟩, p.pop.closeMark.skip)
  | _ => (p.push (.flowEntry false)).node false false

/-- Reads the key of a pair in brackets. Where it is left out, the token that follows is passed
over. -/
def pairKey (p : Parser) : Except SyntaxError Step := do
  let t ← p.peek
  if leavesOut [.value, .flowEntry, .flowSequenceEnd] t then
    .ok ((p.skip.expect .pairValue).emptyScalar t.stop)
  else (p.push .pairValue).node false false

/-- Reads the value of a pair in brackets. -/
def pairValue (p : Parser) : Except SyntaxError Step := do
  let t ← p.peek
  if t.kind = .value then
    let u ← p.skip.peek
    p.skip.nodeUnless [.flowEntry, .flowSequenceEnd] false false .pairEnd u.start
  else .ok ((p.expect .pairEnd).emptyScalar t.start)

/-- Ends the mapping of a pair in brackets. -/
def pairEnd (p : Parser) : Except SyntaxError Step := do
  let t ← p.peek
  .ok (⟨.mappingEnd, t.start⟩, p.expect (.flowEntry false))

/-- Reads a key in braces, or the closing brace. -/
def flowKey (first : Bool) (p : Parser) : Except SyntaxError Step := do
  let t ← p.peek
  let p := if first then p.openMark t else p
  let p ← p.flowComma first .flowMappingEnd .flowMapping .missingCommaOrBrace
  let t ← p.peek
  match t.kind with
  | .key =>
    let u ← p.skip.peek
    p.skip.nodeUnless [.value, .flowEntry, .flowMappingEnd] false false .flowValue u.start
  | .flowMappingEnd => .ok (⟨.mappingEnd, t.start⟩, p.pop.closeMark.skip)
  | _ => (p.push .flowEmptyValue).node false false

/-- Reads a value in braces, which may be left out. -/
def flowValue (p : Parser) : Except SyntaxError Step := do
  let t ← p.peek
  if t.kind = .value then
    let u ← p.skip.peek
    p.skip.nodeUnless [.flowEntry, .flowMappingEnd] false false (.flowKey false) u.start
  else .ok ((p.expect (.flowKey false)).emptyScalar t.start)

/-- A value in braces that is left out. -/
def flowEmptyValue (p : Parser) : Except SyntaxError Step := do
  let t ← p.peek
  .ok ((p.expect (.flowKey false)).emptyScalar t.start)

/-! ### The machine -/

/-- Reads the start of the text. -/
def streamStart (p : Parser) : Except SyntaxError Step := do
  let t ← p.peek
  if t.kind = .streamStart then
    .ok (⟨.streamStart, t.start⟩, (p.expect (.documentStart true)).skip)
  else .error (.bare .missingStreamStart t.start)

def step (p : Parser) : Except SyntaxError Step :=
  match p.state with
  | .stream => p.streamStart
  | .documentStart first => p.documentStart first
  | .documentContent => p.documentContent
  | .documentEnd => p.documentEnd
  | .blockNode => p.node true false
  | .blockEntry first => p.blockEntry first
  | .indentlessEntry => p.indentlessEntry
  | .blockKey first => p.blockKey first
  | .blockValue => p.blockValue
  | .flowEntry first => p.flowEntry first
  | .pairKey => p.pairKey
  | .pairValue => p.pairValue
  | .pairEnd => p.pairEnd
  | .flowKey first => p.flowKey first
  | .flowValue => p.flowValue
  | .flowEmptyValue => p.flowEmptyValue
  | .nothing => .ok (⟨.streamEnd, .zero⟩, p)

/-- Takes steps up to the end of the text or the first fault. -/
def run : Nat → List Event → Parser → List Event × Option SyntaxError
  | 0, before, _ => (before.reverse, none)
  | fuel + 1, before, p =>
    match p.step with
    | .error e => (before.reverse, some e)
    | .ok (e, p) =>
      if e.kind = .streamEnd then ((e :: before).reverse, none) else run fuel (e :: before) p

end Parser

/-- The events of a text in order, up to the first fault. -/
def Event.stream (text : String) : List Event × Option SyntaxError :=
  let (tokens, fault) := Token.stream text
  Parser.run (4 * tokens.length + 8) [] ⟨tokens, fault, .stream, [], [], []⟩

end DocCheck.Yaml
