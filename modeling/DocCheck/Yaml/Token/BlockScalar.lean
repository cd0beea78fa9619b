import DocCheck.Yaml.Token

/-!
# Block scalars

A block scalar starts with `|` or `>` and goes on as long as its lines are indented. The line breaks
of `|` stay; with `>` a single break between two lines that do not start with a blank becomes a
blank. A sign in the header says what becomes of the breaks at the end, a digit how deep the lines
are indented.
-/

namespace DocCheck.Yaml

/-- What becomes of the line breaks at the end of a block scalar. -/
inductive Chomping where
  /-- One stays. -/
  | clip
  /-- None stays. -/
  | strip
  /-- All stay. -/
  | keep
  deriving DecidableEq

namespace Source

/-- Reads the sign of a header. -/
def chomping (s : Source) : Option (Chomping × Source) :=
  if s.at? '+' then some (.keep, s.advance 1)
  else if s.at? '-' then some (.strip, s.advance 1)
  else none

/-- Reads the digit of a header; the answer is zero if there is none. -/
def increment (start : Mark) (s : Source) : Except SyntaxError (Nat × Source) :=
  match s.peek with
  | some c =>
    if c = '0' then .error (.within .blockScalar start .zeroIndentation s.mark)
    else if '1' ≤ c && c ≤ '9' then .ok (c.toNat - 48, s.advance 1)
    else .ok (0, s)
  | none => .ok (0, s)

/-- Reads the sign and the digit of a header, in either order. -/
def blockHeader (start : Mark) (s : Source) : Except SyntaxError ((Chomping × Nat) × Source) :=
  match s.chomping with
  | some (sign, s) => do
    let (digit, s) ← s.increment start
    .ok ((sign, digit), s)
  | none => do
    let (digit, s) ← s.increment start
    if digit = 0 then .ok ((.clip, 0), s)
    else
      match s.chomping with
      | some (sign, s) => .ok ((sign, digit), s)
      | none => .ok ((.clip, digit), s)

/-- Passes over blanks up to the indentation, or over all blanks while it is not known. -/
def skipIndentation (indent : Nat) (s : Source) : Source :=
  let blanks := (s.rest.takeWhile (· == ' ')).length
  if indent = 0 then s.advance blanks else s.advance (min blanks (indent - s.mark.column))

/-- Passes over empty lines and the indentation of the next line. The answer is the breaks read, in
order, where the last of them ends, and the greatest column met. -/
def emptyLines (start : Mark) (indent : Nat) :
    Nat → List Char → Mark → Nat → Source → Except SyntaxError ((List Char × Mark × Nat) × Source)
  | 0, breaks, stop, deepest, s => .ok ((breaks, stop, deepest), s)
  | fuel + 1, breaks, stop, deepest, s =>
    let s := s.skipIndentation indent
    let deepest := max deepest s.mark.column
    if (indent = 0 || s.mark.column < indent) && s.at? '\t' then
      .error (.within .blockScalar start .tabInIndentation s.mark)
    else
      match s.lineBreak? with
      | none => .ok ((breaks, stop, deepest), s)
      | some (b, s) => emptyLines start indent fuel (breaks ++ b) s.mark deepest s

/-- The text of a block scalar so far. -/
structure BlockText where
  /-- The characters, in reverse. -/
  text : List Char
  /-- The break that ended the last line. -/
  lastBreak : List Char
  /-- The breaks of the empty lines behind it. -/
  emptyBreaks : List Char
  /-- Whether the last line started with a blank. -/
  blankStart : Bool

namespace BlockText

/-- The text with the breaks before the next line, which may be folded. -/
def joined (t : BlockText) (folded : Bool) (blankNext : Bool) : List Char :=
  let fold := folded && t.lastBreak.head? == some '\n' && !t.blankStart && !blankNext
  let breaks :=
    if fold then (if t.emptyBreaks.isEmpty then [' '] else t.emptyBreaks)
    else t.lastBreak ++ t.emptyBreaks
  breaks.reverse ++ t.text

/-- The text with what remains of the breaks at its end. -/
def chomped (t : BlockText) (sign : Chomping) : List Char :=
  let breaks :=
    match sign with
    | .clip => t.lastBreak
    | .strip => []
    | .keep => t.lastBreak ++ t.emptyBreaks
  t.text.reverse ++ breaks

end BlockText

/-- Reads the lines of a block scalar. -/
def blockLines (start : Mark) (folded : Bool) (indent : Nat) :
    Nat → BlockText → Mark → Source → Except SyntaxError ((BlockText × Mark) × Source)
  | 0, t, stop, s => .ok ((t, stop), s)
  | fuel + 1, t, stop, s =>
    if s.mark.column == indent && s.peek.isSome then do
      let blank := isBlank s.peek
      let (line, s) := s.span fun c => !isBreak (some c)
      let text := line.reverse ++ t.joined folded blank
      let (lastBreak, s) := s.lineBreak?.getD ([], s)
      let ((breaks, stop, _), s) ← emptyLines start indent s.bound [] s.mark 0 s
      blockLines start folded indent fuel ⟨text, lastBreak, breaks, blank⟩ stop s
    else .ok ((t, stop), s)

/-- Reads a block scalar, its sign included. The parent's column is negative at the top. -/
def blockScalar (folded : Bool) (parent : Int) (s : Source) :
    Except SyntaxError (Token × Source) := do
  let start := s.mark
  let ((sign, digit), s) ← (s.advance 1).blockHeader start
  let s := s.skipBlanks.skipComment
  if !isBreakOrEnd s.peek then .error (.within .blockScalar start .missingLineBreak s.mark)
  let s := s.skipLine
  let fuel := s.bound
  let given : Nat := if digit = 0 then 0 else (max parent 0).toNat + digit
  let ((breaks, stop, deepest), s) ← emptyLines start given fuel [] s.mark 0 s
  let indent : Nat := if given = 0 then max (max deepest (parent + 1).toNat) 1 else given
  let ((t, stop), s) ← blockLines start folded indent fuel ⟨[], [], breaks, false⟩ stop s
  .ok (⟨.scalar (String.ofList (t.chomped sign)) false, start, stop⟩, s)

end Source

end DocCheck.Yaml
