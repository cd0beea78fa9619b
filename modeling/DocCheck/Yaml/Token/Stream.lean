import DocCheck.Yaml.Token.BlockScalar
import DocCheck.Yaml.Token.FlowScalar

/-!
# The tokens of a text

Tokens are read into a queue and leave it in order. A token that may turn out to be a key, because a
colon follows it on the same line, is remembered as a `PendingKey` with its place in the stream; it
stays in the queue until that is settled, so that the token that announces a key can still be put
before it.

Indentation is kept as a stack of columns: a list entry or a key to the right of the innermost
column starts a block collection, and a token to the left of it ends one. Inside brackets and braces
indentation does not count.

A character that no text may hold is a fault as soon as the block of bytes with it is looked at,
even if the token that was being read ends before it.

* `Lexer.fetch` — reads the next token into the queue;
* `Token.stream` — the tokens of a text in order, up to the first fault.
-/

namespace DocCheck.Yaml

/-- A token that may turn out to be a key. -/
structure PendingKey where
  /-- Whether it has to be one. -/
  required : Bool
  /-- Its place in the stream of tokens. -/
  place : Nat
  /-- Where it starts in the text. -/
  mark : Mark

/-- How many bytes a key may have. -/
def longestKey : Nat := 1024

/-- Where reading tokens stands. -/
structure Lexer where
  /-- The text still to be read. -/
  source : Source
  /-- Whether the token for the start has been read. -/
  started : Bool
  /-- The column of the innermost block collection, negative outside of all. -/
  indent : Int
  /-- The columns around it, innermost first. -/
  indents : List Int
  /-- Whether a key may start here. -/
  keyAllowed : Bool
  /-- What may turn out to be a key, per bracket or brace, innermost first. -/
  pending : List (Option PendingKey)
  /-- The tokens that have been read and have not left. -/
  queue : List Token
  /-- How many tokens have left. -/
  released : Nat
  /-- How many bytes there are before the block with a fault, and the fault. -/
  barrier : Option (Nat × SyntaxError)

namespace Lexer

def ofList (cs : List Char) (barrier : Option (Nat × SyntaxError)) : Lexer :=
  ⟨.ofList cs, false, -1, [], false, [none], [], 0, barrier⟩

/-- Where the text still to be read starts. -/
def mark (l : Lexer) : Mark := l.source.mark

/-- Whether some bracket or brace is open. -/
def inFlow (l : Lexer) : Bool := 1 < l.pending.length

/-- Puts a token at the end of the queue. -/
def push (t : Token) (l : Lexer) : Lexer := { l with queue := l.queue ++ [t] }

/-- Puts a token at a place of the stream. -/
def insertAt (place : Nat) (t : Token) (l : Lexer) : Lexer :=
  { l with queue := l.queue.insertIdx (place - l.released) t }

/-- Puts a token made of `n` characters at the end of the queue, and passes over them. -/
def take (n : Nat) (kind : TokenKind) (l : Lexer) : Lexer :=
  let source := l.source.advance n
  { l.push ⟨kind, l.mark, source.mark⟩ with source := source }

/-- Puts a token at the end of the queue, and goes on behind it. -/
def pushRead (r : Token × Source) (l : Lexer) : Lexer := { l.push r.1 with source := r.2 }

/-! ### Keys -/

/-- A token that has to be a key is none. -/
def missingKeyColon {α : Type} (k : PendingKey) (l : Lexer) : Except SyntaxError α :=
  .error (.within .simpleKey k.mark .missingColon l.mark)

/-- Whether a token can no longer be a key: it started on an earlier line or too far back. -/
def isStale (l : Lexer) (k : PendingKey) : Bool :=
  k.mark.line < l.mark.line || k.mark.index + longestKey < l.mark.index

/-- Drops what can no longer be a key. -/
def dropStaleFrom (l : Lexer) : List (Option PendingKey) →
    Except SyntaxError (List (Option PendingKey))
  | [] => .ok []
  | none :: rest => (dropStaleFrom l rest).map (none :: ·)
  | some k :: rest => do
    -- The outermost level is looked at first.
    let rest ← dropStaleFrom l rest
    if l.isStale k then
      if k.required then l.missingKeyColon k else .ok (none :: rest)
    else .ok (some k :: rest)

/-- Drops what can no longer be a key. -/
def dropStale (l : Lexer) : Except SyntaxError Lexer := do
  .ok { l with pending := ← dropStaleFrom l l.pending }

/-- Gives up the innermost token that may be a key. -/
def dropKey (l : Lexer) : Except SyntaxError Lexer :=
  match l.pending with
  | some k :: rest =>
    if k.required then l.missingKeyColon k else .ok { l with pending := none :: rest }
  | _ => .ok l

/-- Remembers the token that starts here, if a key may start here. At the column of a block
collection it has to be one. -/
def saveKey (l : Lexer) : Except SyntaxError Lexer :=
  if l.keyAllowed then do
    let required := !l.inFlow && l.indent == (l.mark.column : Int)
    let k : PendingKey := ⟨required, l.released + l.queue.length, l.mark⟩
    let l ← l.dropKey
    .ok { l with pending := some k :: l.pending.drop 1 }
  else .ok l

/-! ### Indentation -/

/-- Starts a block collection at a column, if that is to the right of the innermost one. Its token
goes to the given place of the stream, or to its end. -/
def indentTo (column : Nat) (place : Option Nat) (kind : TokenKind) (mark : Mark) (l : Lexer) :
    Lexer :=
  if l.inFlow || (column : Int) ≤ l.indent then l
  else
    let l := { l with indents := l.indent :: l.indents, indent := column }
    let t : Token := ⟨kind, mark, mark⟩
    match place with
    | some p => l.insertAt p t
    | none => l.push t

/-- Ends the block collections to the right of a column. The stack bounds their number. -/
def unindentFrom (column : Int) : List Int → Lexer → Lexer
  | outer :: rest, l =>
    if column < l.indent then
      unindentFrom column rest
        { l.push ⟨.blockEnd, l.mark, l.mark⟩ with indent := outer, indents := rest }
    else l
  | [], l => l

/-- Ends the block collections to the right of a column. -/
def unindentTo (column : Int) (l : Lexer) : Lexer :=
  if l.inFlow then l else unindentFrom column l.indents l

/-! ### Reading tokens -/

/-- Passes over blanks, comments and line breaks, and over a byte-order mark at the start of a line.
A tab counts as a blank only where no key may start. After a line break a key may start again. -/
def skipGap : Nat → Lexer → Lexer
  | 0, l => l
  | fuel + 1, l =>
    let s := l.source
    let s := if s.mark.column == 0 && s.at? '\uFEFF' then s.advance 1 else s
    let tabs := l.inFlow || !l.keyAllowed
    let s := (s.skipWhile fun c => c == ' ' || (tabs && c == '\t')).skipComment
    match s.lineBreak? with
    | some (_, s) => skipGap fuel { l with source := s, keyAllowed := l.keyAllowed || !l.inFlow }
    | none => { l with source := s }

/-- Reads the end of the text. A last line without break counts as ended. -/
def fetchStreamEnd (l : Lexer) : Except SyntaxError Lexer := do
  let m := l.mark
  let m : Mark := if m.column = 0 then m else ⟨m.index, m.line + 1, 0⟩
  let l := { l with source := { l.source with mark := m } }
  let l ← (l.unindentTo (-1)).dropKey
  .ok ({ l with keyAllowed := false }.take 0 .streamEnd)

def fetchDirective (l : Lexer) : Except SyntaxError Lexer := do
  let l ← (l.unindentTo (-1)).dropKey
  .ok ({ l with keyAllowed := false }.pushRead (← l.source.directive))

/-- Reads the mark of a document's start or end. -/
def fetchDocumentIndicator (kind : TokenKind) (l : Lexer) : Except SyntaxError Lexer := do
  let l ← (l.unindentTo (-1)).dropKey
  .ok ({ l with keyAllowed := false }.take 3 kind)

/-- Reads an opening bracket or brace. -/
def fetchFlowStart (kind : TokenKind) (l : Lexer) : Except SyntaxError Lexer := do
  let l ← l.saveKey
  .ok ({ l with pending := none :: l.pending, keyAllowed := true }.take 1 kind)

/-- Reads a closing bracket or brace. -/
def fetchFlowEnd (kind : TokenKind) (l : Lexer) : Except SyntaxError Lexer := do
  let l ← l.dropKey
  let pending := if l.inFlow then l.pending.drop 1 else l.pending
  .ok ({ l with pending := pending, keyAllowed := false }.take 1 kind)

def fetchFlowEntry (l : Lexer) : Except SyntaxError Lexer := do
  let l ← l.dropKey
  .ok ({ l with keyAllowed := true }.take 1 .flowEntry)

/-- Reads the dash of a list entry. -/
def fetchBlockEntry (l : Lexer) : Except SyntaxError Lexer := do
  if !l.inFlow && !l.keyAllowed then .error (.bare .entryNotAllowed l.mark)
  let l ← (l.indentTo l.mark.column none .blockSequenceStart l.mark).dropKey
  .ok ({ l with keyAllowed := true }.take 1 .blockEntry)

/-- Reads the question mark of a key. -/
def fetchKey (l : Lexer) : Except SyntaxError Lexer := do
  if !l.inFlow && !l.keyAllowed then .error (.bare .keyNotAllowed l.mark)
  let l ← (l.indentTo l.mark.column none .blockMappingStart l.mark).dropKey
  .ok ({ l with keyAllowed := !l.inFlow }.take 1 .key)

/-- Reads the colon of a value. The token before it, if it may be one, is the key. -/
def fetchValue (l : Lexer) : Except SyntaxError Lexer :=
  match l.pending with
  | some k :: rest =>
    -- The marks of key and mapping go in front of what has been read since the key began.
    let l := l.insertAt k.place ⟨.key, k.mark, k.mark⟩
    let l := l.indentTo k.mark.column (some k.place) .blockMappingStart k.mark
    .ok ({ l with pending := none :: rest, keyAllowed := false }.take 1 .value)
  | _ =>
    if !l.inFlow && !l.keyAllowed then .error (.bare .valueNotAllowed l.mark)
    else
      let l := l.indentTo l.mark.column none .blockMappingStart l.mark
      .ok ({ l with keyAllowed := !l.inFlow }.take 1 .value)

/-- Reads an anchor or an alias. -/
def fetchAnchor (context : Context) (kind : String → TokenKind) (l : Lexer) :
    Except SyntaxError Lexer := do
  let l ← l.saveKey
  let (name, s) ← l.source.anchorName context
  .ok ({ l with keyAllowed := false }.pushRead (⟨kind name, l.mark, s.mark⟩, s))

def fetchTag (l : Lexer) : Except SyntaxError Lexer := do
  let l ← l.saveKey
  .ok ({ l with keyAllowed := false }.pushRead (← l.source.tagToken l.inFlow))

def fetchBlockScalar (folded : Bool) (l : Lexer) : Except SyntaxError Lexer := do
  let l ← l.dropKey
  .ok ({ l with keyAllowed := true }.pushRead (← l.source.blockScalar folded l.indent))

def fetchQuotedScalar (single : Bool) (l : Lexer) : Except SyntaxError Lexer := do
  let l ← l.saveKey
  .ok ({ l with keyAllowed := false }.pushRead (← l.source.quotedScalar single))

def fetchPlainScalar (l : Lexer) : Except SyntaxError Lexer := do
  let l ← l.saveKey
  let ((t, broken), s) ← l.source.plainScalar l.inFlow l.indent
  .ok ({ l with keyAllowed := broken }.pushRead (t, s))

/-- Whether a plain scalar may start with a character, an indicator only where no blank follows. -/
def startsPlain (l : Lexer) (c : Char) : Bool :=
  let next := l.source.peekAt 1
  let indicators := "-?:,[]{}#&*!|>'\"%@\x60".toList
  !indicators.contains c
    || (c == '-' && !isBlank next)
    || (!l.inFlow && (c == '?' || c == ':') && !isBlankOrEnd next)

/-- Reads the token that starts with a given character. -/
def fetchFrom (c : Char) (l : Lexer) : Except SyntaxError Lexer :=
  let blankNext := isBlankOrEnd (l.source.peekAt 1)
  if l.mark.column == 0 && c == '%' then l.fetchDirective
  -- The marks of documents come before the entries of lists and the plain scalars.
  else if l.source.atIndicator '-' then l.fetchDocumentIndicator .documentStart
  else if l.source.atIndicator '.' then l.fetchDocumentIndicator .documentEnd
  else if c == '[' then l.fetchFlowStart .flowSequenceStart
  else if c == '{' then l.fetchFlowStart .flowMappingStart
  else if c == ']' then l.fetchFlowEnd .flowSequenceEnd
  else if c == '}' then l.fetchFlowEnd .flowMappingEnd
  else if c == ',' then l.fetchFlowEntry
  else if c == '-' && blankNext then l.fetchBlockEntry
  else if c == '?' && (l.inFlow || blankNext) then l.fetchKey
  else if c == ':' && (l.inFlow || blankNext) then l.fetchValue
  else if c == '*' then l.fetchAnchor .aliasName .aliasName
  else if c == '&' then l.fetchAnchor .anchor .anchor
  else if c == '!' then l.fetchTag
  else if c == '|' && !l.inFlow then l.fetchBlockScalar false
  else if c == '>' && !l.inFlow then l.fetchBlockScalar true
  else if c == '\'' then l.fetchQuotedScalar true
  else if c == '"' then l.fetchQuotedScalar false
  else if l.startsPlain c && !isBlank (some c) then l.fetchPlainScalar
  else .error (.within .nextToken l.mark .badStart l.mark)

/-- Reads the token that comes next in the text. -/
def fetchNext (l : Lexer) : Except SyntaxError Lexer := do
  let l ← (l.skipGap l.source.bound).dropStale
  let l := l.unindentTo l.mark.column
  match l.source.peek with
  | none => l.fetchStreamEnd
  | some c => l.fetchFrom c

/-- Whether reading has come to a barrier, when four characters are looked at for every token. -/
def hasReached (barrier : Nat) (l : Lexer) (place : Mark) : Bool :=
  barrier ≤ place.index || ((l.skipGap l.source.bound).source.rest.drop 3).isEmpty

/-- Reads the next token into the queue. -/
def fetch (l : Lexer) : Except SyntaxError Lexer :=
  if !l.started then .ok ({ l with started := true, keyAllowed := true }.take 0 .streamStart)
  else
    match l.barrier, l.fetchNext with
    | none, result => result
    | some (n, fault), .ok next => if l.hasReached n next.mark then .error fault else .ok next
    | some (n, fault), .error e => if l.hasReached n e.place then .error fault else .error e

/-- Whether the first token of the queue may still turn out to be a key. -/
def isOpen (l : Lexer) : Bool := l.pending.any fun k => k.any fun k => k.place == l.released

/-- Lets tokens leave the queue, and reads further ones while it is empty or its first token may
still be a key. -/
def release : Nat → List Token → Lexer → List Token × Option SyntaxError
  | 0, before, _ => (before.reverse, none)
  | fuel + 1, before, l =>
    match l.queue with
    | [] =>
      match l.fetch with
      | .ok l => release fuel before l
      | .error e => (before.reverse, some e)
    | t :: queue =>
      match l.dropStale with
      | .error e => (before.reverse, some e)
      | .ok l =>
        if l.isOpen then
          match l.fetch with
          | .ok l => release fuel before l
          | .error e => (before.reverse, some e)
        else if t.kind = .streamEnd then ((t :: before).reverse, none)
        else release fuel (t :: before) { l with queue := queue, released := l.released + 1 }

end Lexer

/-- Whether a text may hold a character. -/
def isAllowedChar (c : Char) : Bool :=
  let n := c.toNat
  n == 0x09 || n == 0x0A || n == 0x0D || (0x20 ≤ n && n ≤ 0x7E) || n == 0x85
    || (0xA0 ≤ n && n ≤ 0xD7FF) || (0xE000 ≤ n && n ≤ 0xFFFD) || (0x10000 ≤ n && n ≤ 0x10FFFF)

/-- How many bytes stand before the first character that a text may not hold. -/
def forbiddenAt? : Nat → List Char → Option Nat
  | _, [] => none
  | n, c :: cs => if isAllowedChar c then forbiddenAt? (n + c.utf8Size) cs else some n

/-- How many bytes are looked at together. -/
def blockSize : Nat := 16384

/-- Where the block starts that holds the first character that a text may not hold. The block that
is being counted starts at `start` and has `size` bytes so far; no character is divided. -/
def blockStart (start size : Nat) : List Char → Nat
  | [] => start
  | c :: cs =>
    let full := blockSize < size + c.utf8Size
    let start := if full then start + size else start
    let size := if full then 0 else size
    if isAllowedChar c then blockStart start (size + c.utf8Size) cs else start

/-- The tokens of a text in order, up to the first fault. -/
def Token.stream (text : String) : List Token × Option SyntaxError :=
  let cs := text.toList
  let (readable, barrier) :=
    match forbiddenAt? 0 cs with
    | some n =>
      let start := blockStart 0 0 cs
      (Text.takeBytes start cs, some (start, ⟨.controlCharacter, .zero, none, n⟩))
    | none => (cs, none)
  (Lexer.ofList readable barrier).release (8 * readable.length + 16) []

end DocCheck.Yaml
