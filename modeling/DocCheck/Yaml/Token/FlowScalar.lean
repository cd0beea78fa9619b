import DocCheck.Yaml.Token.Tag

/-!
# Plain and quoted scalars

Scalars that may run over several lines: the blanks around a line break are dropped, and a single
break becomes a blank. What stands between two words is a `Gap`, read by `Gap.read` and turned into
text by `Gap.text`.

* `Source.quotedScalar` — a scalar in single or double quotes;
* `Source.plainScalar` — a scalar without quotes.
-/

namespace DocCheck.Yaml

/-- What stands between two words of a scalar. -/
structure Gap where
  /-- The blanks before the first break. -/
  blanks : List Char
  /-- Whether there is a break. -/
  broken : Bool
  /-- The first break. -/
  firstBreak : List Char
  /-- The breaks behind it. -/
  laterBreaks : List Char

namespace Gap

/-- A gap with nothing in it. -/
def empty : Gap := ⟨[], false, [], []⟩

/-- A gap that starts at a break which leaves nothing behind. -/
def afterEscapedBreak : Gap := ⟨[], true, [], []⟩

/-- What a gap stands for in the text of a scalar. -/
def text (g : Gap) : List Char :=
  if !g.broken then g.blanks
  else if g.firstBreak.head? == some '\n' then
    (if g.laterBreaks.isEmpty then [' '] else g.laterBreaks)
  else g.firstBreak ++ g.laterBreaks

/-- Reads a gap to its end. `forbidsTab` says at which places behind a break a tab is a fault. -/
def read (start : Mark) (forbidsTab : Mark → Bool) :
    Nat → Gap → Source → Except SyntaxError (Gap × Source)
  | 0, g, s => .ok (g, s)
  | fuel + 1, g, s =>
    match s.lineBreak? with
    | some (b, s) =>
      if g.broken then read start forbidsTab fuel { g with laterBreaks := g.laterBreaks ++ b } s
      else read start forbidsTab fuel { g with blanks := [], broken := true, firstBreak := b } s
    | none =>
      match s.peek with
      | some c =>
        if !isBlank (some c) then .ok (g, s)
        else if c = '\t' && g.broken && forbidsTab s.mark then
          .error (.within .plainScalar start .tabInPlain s.mark)
        else if g.broken then read start forbidsTab fuel g (s.advance 1)
        else read start forbidsTab fuel { g with blanks := g.blanks ++ [c] } (s.advance 1)
      | none => .ok (g, s)

end Gap

namespace Source

/-! ### Quoted scalars -/

/-- The characters that a backslash and one more character stand for. -/
def simpleEscape? (c : Char) : Option Char :=
  match c with
  | '0' => some '\x00'
  | 'a' => some '\x07'
  | 'b' => some '\x08'
  | 't' => some '\t'
  | '\t' => some '\t'
  | 'n' => some '\n'
  | 'v' => some '\x0b'
  | 'f' => some '\x0c'
  | 'r' => some '\r'
  | 'e' => some '\x1b'
  | ' ' => some ' '
  | '"' => some '"'
  | '/' => some '/'
  | '\\' => some '\\'
  | 'N' => some '\u0085'
  | '_' => some '\u00a0'
  | 'L' => some '\u2028'
  | 'P' => some '\u2029'
  | _ => none

/-- How many digits follow the letter of an escape by number. -/
def escapeDigits? (c : Char) : Option Nat :=
  match c with
  | 'x' => some 2
  | 'u' => some 4
  | 'U' => some 8
  | _ => none

/-- Reads the digits of an escape by number, its letter read already. -/
def escapeByNumber (start : Mark) (digits : Nat) (s : Source) :
    Except SyntaxError (Char × Source) :=
  match (s.rest.take digits).mapM hexValue? with
  | none => .error (.within .quotedEscape start .badHexEscape s.mark)
  | some ds =>
    if ds.length < digits then .error (.within .quotedEscape start .badHexEscape s.mark)
    else
      let value := ds.foldl (fun n d => 16 * n + d) 0
      if (0xD800 ≤ value && value ≤ 0xDFFF) || 0x10FFFF < value then
        .error (.within .quotedEscape start .badCodePoint s.mark)
      else .ok (Char.ofNat value, s.advance digits)

/-- Reads an escape, its backslash included. -/
def escape (start : Mark) (s : Source) : Except SyntaxError (Char × Source) :=
  match s.peekAt 1 with
  | none => .error (.within .quotedEscape start .unknownEscape s.mark)
  | some c =>
    match simpleEscape? c, escapeDigits? c with
    | some d, _ => .ok (d, s.advance 2)
    | none, some n => escapeByNumber start n (s.advance 2)
    | none, none => .error (.within .quotedEscape start .unknownEscape s.mark)

/-- Reads a word inside quotes; what stands before it is in reverse. The answer also says whether an
escaped line break ended the word. -/
def quotedWord (single : Bool) (start : Mark) :
    Nat → List Char → Source → Except SyntaxError ((List Char × Bool) × Source)
  | 0, before, s => .ok ((before, false), s)
  | fuel + 1, before, s =>
    match s.peek with
    | none => .ok ((before, false), s)
    | some c =>
      if isBlankOrEnd (some c) then .ok ((before, false), s)
      else if single then
        if c = '\'' then
          if s.peekAt 1 == some '\'' then
            quotedWord single start fuel ('\'' :: before) (s.advance 2)
          else .ok ((before, false), s)
        else quotedWord single start fuel (c :: before) (s.advance 1)
      else if c = '"' then .ok ((before, false), s)
      else if c = '\\' then
        if isBreak (s.peekAt 1) then .ok ((before, true), (s.advance 1).skipLine)
        else do
          let (d, s) ← s.escape start
          quotedWord single start fuel (d :: before) s
      else quotedWord single start fuel (c :: before) (s.advance 1)

/-- Reads the words and gaps inside quotes, the closing quote included. -/
def quotedWords (single : Bool) (start : Mark) :
    Nat → List Char → Source → Except SyntaxError (List Char × Source)
  | 0, before, s => .ok (before.reverse, s)
  | fuel + 1, before, s => do
    if s.atDocumentIndicator then .error (.within .quotedScalar start .indicatorInQuotes s.mark)
    if s.peek.isNone then .error (.within .quotedScalar start .unclosedQuotes s.mark)
    let ((before, escaped), s) ← quotedWord single start s.bound before s
    if s.at? (if single then '\'' else '"') then .ok (before.reverse, s.advance 1)
    else
      let g := if escaped then Gap.afterEscapedBreak else Gap.empty
      let (g, s) ← Gap.read start (fun _ => false) s.bound g s
      quotedWords single start fuel (g.text.reverse ++ before) s

/-- Reads a scalar in quotes. -/
def quotedScalar (single : Bool) (s : Source) : Except SyntaxError (Token × Source) := do
  let (cs, rest) ← quotedWords single s.mark s.bound [] (s.advance 1)
  .ok (⟨.scalar (String.ofList cs) false, s.mark, rest.mark⟩, rest)

/-! ### Plain scalars -/

/-- Indicators of flow collections. -/
def isFlowIndicator (c : Option Char) : Bool := isOneOf [',', '[', ']', '{', '}'] c

/-- Reads a word of a plain scalar; what stands before it is in reverse. -/
def plainWord (inFlow : Bool) (start : Mark) :
    Nat → List Char → Source → Except SyntaxError (List Char × Source)
  | 0, before, s => .ok (before, s)
  | fuel + 1, before, s =>
    match s.peek with
    | none => .ok (before, s)
    | some c =>
      if isBlankOrEnd (some c) then .ok (before, s)
      else if inFlow && c = ':' && (isFlowIndicator (s.peekAt 1) || s.peekAt 1 == some '?') then
        .error (.within .plainScalar start .colonInPlain s.mark)
      else if c = ':' && isBlankOrEnd (s.peekAt 1) then .ok (before, s)
      else if inFlow && isFlowIndicator (some c) then .ok (before, s)
      else plainWord inFlow start fuel (c :: before) (s.advance 1)

/-- Reads the words and gaps of a plain scalar. The answer is its text, where it ends, and whether
a line break stands behind it. -/
def plainWords (inFlow : Bool) (indent : Int) (start : Mark) :
    Nat → List Char → Gap → Mark → Source →
      Except SyntaxError ((List Char × Mark × Bool) × Source)
  | 0, before, g, stop, s => .ok ((before.reverse, stop, g.broken), s)
  | fuel + 1, before, g, stop, s =>
    if s.atDocumentIndicator || s.at? '#' then .ok ((before.reverse, stop, g.broken), s)
    else do
      let joined := g.text.reverse ++ before
      let (word, after) ← plainWord inFlow start s.bound joined s
      let read := after.mark.index != s.mark.index
      let before := if read then word else before
      let stop := if read then after.mark else stop
      let g := if read then Gap.empty else g
      if isBlank after.peek || isBreak after.peek then
        let forbidsTab (m : Mark) := decide ((m.column : Int) < indent)
        let (g, s) ← Gap.read start forbidsTab after.bound g after
        if !inFlow && (s.mark.column : Int) < indent then .ok ((before.reverse, stop, g.broken), s)
        else plainWords inFlow indent start fuel before g stop s
      else .ok ((before.reverse, stop, g.broken), after)

/-- Reads a plain scalar that must be indented deeper than its parent. The answer also says whether
a line break stands behind it, after which a key may start. -/
def plainScalar (inFlow : Bool) (parent : Int) (s : Source) :
    Except SyntaxError ((Token × Bool) × Source) := do
  let ((cs, stop, broken), rest) ←
    plainWords inFlow (parent + 1) s.mark s.bound [] .empty s.mark s
  .ok ((⟨.scalar (String.ofList cs) true, s.mark, stop⟩, broken), rest)

end Source

end DocCheck.Yaml
