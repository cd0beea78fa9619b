import DocCheck.Pattern.Bracket
import DocCheck.Pattern.Expr
import DocCheck.Text.Utf8

/-!
# Reading pattern expressions

Letters, digits and most signs stand for themselves; `.` is any character but a line feed, `^` and
`$` are the ends of the text, brackets hold a set, parentheses a group, a bar divides alternatives,
and `*`, `+`, `?` and limits in braces repeat what stands before them, once only. Braces that hold
no limits stand for themselves. Letters behind `(?` change the style up to the end of the next group
around them that changes the style too.

* `Expr.Scan` — a place in the text, and what the text before it says;
* `Expr.read` — the expression of a text.
-/

namespace DocCheck.Pattern.Expr

/-- How the text is read. -/
structure Style where
  /-- Letters stand for either case. -/
  caseless : Bool
  /-- The start and the end are those of a line. -/
  lines : Bool
  /-- A dot stands for a line feed too. -/
  dotAll : Bool
  /-- Repetitions take as little as can be, unless a question mark follows. -/
  lazy : Bool
  /-- Blanks and comments say nothing. -/
  spaced : Bool
  deriving DecidableEq

/-- A place in the text of an expression. -/
structure Scan where
  /-- The characters from here on. -/
  rest : List Char
  /-- How they are read. -/
  style : Style
  /-- The number of groups before. -/
  groups : Nat
  /-- The names of groups before. -/
  names : List (String × Nat)
  /-- Whether a group was referred to by its number. -/
  numbered : Bool
  /-- A number that no reference by number may reach. -/
  bound : Nat

/-- What reading a part gives: the part and the place behind it. -/
abbrev Step := Option (Expr × Scan)

/-- How deep groups may stand in one another. -/
def greatestNesting : Nat := 64

namespace Scan

def drop (s : Scan) (n : Nat) : Scan := { s with rest := s.rest.drop n }

def isAt (s : Scan) (text : String) : Bool := text.toList.isPrefixOf s.rest

/-- Behind a comment between parentheses, which may not hold a closing one without backslash. -/
def behindComment : List Char → Option (List Char)
  | [] | ['\\'] => none
  | ')' :: cs => some cs
  | '\\' :: _ :: cs => behindComment cs
  | _ :: cs => behindComment cs

/-- Behind comments, and behind blanks where they say nothing. -/
def skipIn (spaced : Bool) : Nat → List Char → Option (List Char)
  | 0, cs => some cs
  | fuel + 1, cs =>
    match cs with
    | [] => some []
    | '(' :: '?' :: '#' :: rest => (behindComment rest).bind (skipIn spaced fuel)
    | c :: rest =>
      if spaced && [' ', '\r', '\n', '\t'].contains c then skipIn spaced fuel rest
      else if spaced && c == '#' then
        skipIn spaced fuel ((rest.dropWhile (· != '\n')).drop 1)
      else some cs

/-- Behind comments, and behind blanks where they say nothing. -/
def skip (s : Scan) : Option Scan :=
  (skipIn s.style.spaced s.rest.length s.rest).map fun cs => { s with rest := cs }

/-- The greatest number that is understood. -/
def greatest : Nat := 18446744073709551615

def number? (s : Scan) : Option (Nat × Scan) :=
  let digits := s.rest.takeWhile Char.isDigit
  let n := digits.foldl (fun n c => 10 * n + (c.toNat - 48)) 0
  if digits.isEmpty || greatest < n then none else some (n, s.drop digits.length)

/-- Whether a character may stand in the name of a group. -/
def isNameChar (c : Char) : Bool := c == '_' || Character.alphanumeric.mem c

/-- The name here, between two signs. Where it may be a number counted backwards, it may begin with
a hyphen. -/
def name? (opening closing : Char) (relative : Bool) (s : Scan) : Option (String × Scan) :=
  match s.rest with
  | c :: cs =>
    let name :=
      match cs with
      | '-' :: rest => if relative then '-' :: rest.takeWhile Char.isDigit else []
      | cs => cs.takeWhile isNameChar
    if c == opening && !name.isEmpty && (cs.drop name.length).head? == some closing then
      some (String.ofList name, s.drop (name.length + 2))
    else none
  | [] => none

/-- The group that a name means: one with that name, one with that number, or one so many groups
back. -/
def group? (s : Scan) (name : String) : Option Nat :=
  match s.names.lookup name with
  | some n => some n
  | none =>
    let back := name.toList.head? == some '-'
    let digits := if back then name.toList.drop 1 else name.toList
    if digits.isEmpty || !digits.all Char.isDigit then none
    else
      let n := digits.foldl (fun n c => 10 * n + (c.toNat - 48)) 0
      if greatest / 2 < n then none
      else if back && n != 0 then if n ≤ s.groups + 1 then some (s.groups + 1 - n) else none
      else some n

/-- The reference by name that is here. -/
def namedReference (opening closing : Char) (relative : Bool) (s : Scan) : Step := do
  let (name, s) ← s.name? opening closing relative
  let n ← s.group? name
  return (.reference n, s)

/-- The reference by number that is here. -/
def numberedReference (s : Scan) : Step := do
  let (n, s) ← s.number?
  if n < s.bound then return (.reference n, { s with numbered := true }) else none

/-- The limits of a repetition, if they are here; the place is at the opening brace. -/
def limits? (s : Scan) : Option (Nat × Option Nat × Scan) := do
  let s ← (s.drop 1).skip
  let (least, s) ← if s.isAt "," then some (0, s) else s.number?
  let s ← s.skip
  if s.isAt "\x7d" then return (least, some least, s.drop 1)
  else if s.isAt "," then
    let s ← (s.drop 1).skip
    let (most, s) := (s.number?.map fun r => (some r.1, r.2)).getD (none, s)
    let s ← s.skip
    if s.isAt "\x7d" then return (least, most.filter (· != greatest), s.drop 1) else none
  else none

end Scan

/-! ### Sets and escapes -/

/-- The set of characters that a bracket expression or an escape describes. -/
def ofSource (caseless : Bool) (source : List Char) : Option Expr :=
  let k := Cursor.start source
  let part : Reading Bracket :=
    if source.head? == some '[' then Bracket.read k
    else
      match Escape.read k with
      | .ok (e, k) => (Bracket.ofEscape e).map fun b => (b, k)
      | .error e => .error e
  match part with
  | .ok (b, k) =>
    if k.rest.isEmpty then
      (b.set? caseless).map fun s => .set s (b.depth + (if caseless then 1 else 0))
    else none
  | .error _ => none

/-- What an escape means. -/
inductive Meaning where
  /-- A character. -/
  | literal (c : Char) (caseless : Bool)
  /-- A set of characters, as it is written. -/
  | source (text : List Char)
  /-- Something else. -/
  | other (e : Expr)

/-- The character that hexadecimal digits name. The braces may hold up to eight. -/
def readCodePoint (count : Nat) (s : Scan) : Option (Meaning × Scan) :=
  let value (digits : List Char) : Nat :=
    digits.foldl (fun n c => 16 * n + (Escape.hexDigit? c).getD 0) 0
  let isHex (c : Char) : Bool := (Escape.hexDigit? c).isSome
  let fixed := s.rest.take count
  let (digits, length) :=
    if fixed.length == count && fixed.all isHex then (fixed, count)
    else
      match s.rest with
      | '\x7b' :: cs =>
        let inside := cs.takeWhile isHex
        if inside.length ≤ 8 && (cs.drop inside.length).head? == some '\x7d' then
          (inside, inside.length + 2)
        else ([], 0)
      | _ => ([], 0)
  if digits.isEmpty then none
  else (Escape.charAt? (value digits)).map fun c => (.literal c s.style.caseless, s.drop length)

/-- A class with a property, as it is written; the place is at the backslash. -/
def readProperty (s : Scan) : Option (Meaning × Scan) :=
  match s.rest.drop 2 with
  | [] => none
  | '\x7b' :: cs =>
    let inside := cs.takeWhile (· != '\x7d')
    let length := inside.length + 4
    if (cs.drop inside.length).isEmpty then none
    else some (.source (s.rest.take length), s.drop length)
  | _ => some (.source (s.rest.take 3), s.drop 3)

/-- The place that a letter stands for. A brace may not follow one that speaks of an edge. -/
def readPlace (letter : Char) (s : Scan) : Option (Meaning × Scan) :=
  let found (p : Place) : Option (Meaning × Scan) := some (.other (.place p), s)
  let edge (p : Place) : Option (Meaning × Scan) :=
    s.skip.bind fun next => if next.isAt "\x7b" then none else found p
  match letter with
  | 'A' => found .start
  | 'z' => found .finish
  | 'Z' =>
    some (.other (.look (.sequence [.loop (.literal '\n' false) 0 none true, .place .finish])
      true true), s)
  | 'b' => edge .wordEdge
  | 'B' => edge .noWordEdge
  | '<' => found .wordStart
  | '>' => found .wordFinish
  | _ => none

/-- The character that a letter stands for. -/
def control? (inClass : Bool) (letter : Char) : Option Char :=
  match letter with
  | 'b' => if inClass then some '\x08' else none
  | 'e' => some '\x1b'
  | letter => Escape.control? letter

/-- What the escape means whose backslash is here. -/
def readEscape (inClass : Bool) (s : Scan) : Option (Meaning × Scan) :=
  let other (r : Expr × Scan) : Meaning × Scan := (.other r.1, r.2)
  let behind := s.drop 2
  match s.rest.drop 1 with
  | [] => none
  | c :: _ =>
    if c.isDigit then (s.drop 1).numberedReference.map other
    else if c == 'k' && !inClass then
      if behind.isAt "'" then (behind.namedReference '\'' '\'' true).map other
      else (behind.namedReference '<' '>' true).map other
    else if !inClass && "AzZbB<>".toList.contains c then readPlace c behind
    else if "dDsSwW".toList.contains c then some (.source ['\\', c], behind)
    else
      match c with
      | 'h' => some (.source "[0-9A-Fa-f]".toList, behind)
      | 'H' => some (.source "[^0-9A-Fa-f]".toList, behind)
      | 'x' => readCodePoint 2 behind
      | 'u' => readCodePoint 4 behind
      | 'U' => readCodePoint 8 behind
      | 'p' | 'P' => readProperty s
      | 'K' => some (.other .keepOut, behind)
      | 'G' => some (.other .searchStart, behind)
      | c =>
        match control? inClass c with
        | some c => some (.literal c false, behind)
        | none =>
          if c.isAlpha then none
          else if 0x20 ≤ c.toNat && c.toNat ≤ 0x7F then some (.literal c false, behind)
          else some (.source ['\\', c], behind)

/-- Whether a character has a meaning of its own somewhere in a pattern. -/
def isSign (c : Char) : Bool := "\\.+*?()|[]\x7b\x7d^$#&-~".toList.contains c

/-- The source of the bracket expression that goes on here, in reverse behind what is before; so
many brackets are open. -/
def readBracket : Nat → Nat → List Char → Scan → Option (List Char × Scan)
  | 0, _, _, _ => none
  | fuel + 1, nested, before, s =>
    match s.rest with
    | [] => none
    | '\\' :: _ =>
      match readEscape true s with
      | some (.literal c _, s) =>
        readBracket fuel nested (if isSign c then c :: '\\' :: before else c :: before) s
      | some (.source text, s) => readBracket fuel nested (text.reverse ++ before) s
      | _ => none
    | '[' :: _ => readBracket fuel (nested + 1) ('[' :: before) (s.drop 1)
    | ']' :: _ =>
      if nested == 1 then some (']' :: before, s.drop 1)
      else readBracket fuel (nested - 1) (']' :: before) (s.drop 1)
    | c :: _ => readBracket fuel nested (c :: before) (s.drop 1)

/-- The set of the bracket expression here. -/
def readSet (s : Scan) : Step := do
  let start := ['[', '^', ']'].isPrefixOf s.rest
  let length :=
    if start then 3
    else if s.isAt "[^" || s.isAt "[]" then 2
    else 1
  let (source, next) ← readBracket s.rest.length 1 (s.rest.take length).reverse (s.drop length)
  let e ← ofSource s.style.caseless source.reverse
  return (e, next)

def Meaning.expr? (caseless : Bool) : Meaning → Option Expr
  | literal c caseless => some (.literal c caseless)
  | source text => ofSource caseless text
  | other e => some e

/-! ### Groups -/

/-- How a group begins, and what becomes of its inside. -/
inductive Opening where
  /-- A group that is kept. -/
  | group
  /-- A look. -/
  | look (ahead expected : Bool)
  /-- A group that is never taken up again. -/
  | atomic

/-- The inside of a group as an expression. -/
def Opening.close : Opening → Expr → Expr
  | group, e => .group e
  | look ahead expected, e => .look e ahead expected
  | atomic, e => .atomic e

/-- The start of a group with a name; the place is at the sign before the name. -/
def openNamed (s : Scan) : Option (Opening × Scan) := do
  let (name, s) ← s.name? '<' '>' false
  return (.group, { s with groups := s.groups + 1, names := (name, s.groups + 1) :: s.names })

/-- The start of a group; the place is behind the parenthesis. Groups that choose or change the
style are none of these. -/
def openGroup (s : Scan) : Option (Opening × Scan) :=
  if s.isAt "?=" then some (.look true true, s.drop 2)
  else if s.isAt "?!" then some (.look true false, s.drop 2)
  else if s.isAt "?<=" then some (.look false true, s.drop 3)
  else if s.isAt "?<!" then some (.look false false, s.drop 3)
  else if s.isAt "?<" then openNamed (s.drop 1)
  else if s.isAt "?P<" then openNamed (s.drop 2)
  else if s.isAt "?>" then some (.atomic, s.drop 2)
  else some (.group, { s with groups := s.groups + 1 })

/-- Behind the closing parenthesis, which has to be here. -/
def closeGroup (s : Scan) : Option Scan := do
  let s ← s.skip
  if s.isAt ")" then return s.drop 1 else none

/-- A style with a letter switched on or off. -/
def Style.set (st : Style) (letter : Char) (on : Bool) : Option Style :=
  match letter with
  | 'i' => some { st with caseless := on }
  | 'm' => some { st with lines := on }
  | 's' => some { st with dotAll := on }
  | 'U' => some { st with lazy := on }
  | 'x' => some { st with spaced := on }
  | 'u' => if on then some st else none
  | _ => none

/-- The letters that change the style, up to a colon or parenthesis: whether a group follows. There
have been so many signs before, and a hyphen has switched off those that follow it. -/
def readLetters : Nat → Nat → Bool → Scan → Option (Bool × Scan)
  | 0, _, _, _ => none
  | fuel + 1, count, on, s =>
    match s.skip with
    | none => none
    | some s =>
      match s.rest with
      | [] => none
      | ')' :: _ => if count == 0 || (!on && count == 1) then none else some (false, s.drop 1)
      | ':' :: _ => if !on && count == 1 then none else some (true, s.drop 1)
      | '-' :: _ => if on then readLetters fuel (count + 1) false (s.drop 1) else none
      | c :: _ =>
        match s.style.set c on with
        | some style => readLetters fuel (count + 1) on { s.drop 1 with style := style }
        | none => none

/-- Whether an expression may be repeated. -/
def isRepeatable : Expr → Bool
  | empty | place _ | look _ _ _ => false
  | _ => true

/-- The limits of the repetition that is here. -/
def repetition? (s : Scan) : Option (Nat × Option Nat × Scan) :=
  match s.rest with
  | '?' :: _ => some (0, some 1, s.drop 1)
  | '*' :: _ => some (0, none, s.drop 1)
  | '+' :: _ => some (1, none, s.drop 1)
  | '\x7b' :: _ => s.limits?
  | _ => none

/-- An expression with the repetition that is here. A question mark behind it prefers less, a plus
sign keeps what was found first. -/
def repeatPart (e : Expr) (s : Scan) : Step :=
  match repetition? s with
  | none => some (e, s)
  | some (least, most, s) =>
    if !e.isRepeatable then none
    else do
      let s ← s.skip
      let asked := s.isAt "?"
      let s := if asked then s.drop 1 else s
      let e := Expr.loop e least most (!asked != s.style.lazy)
      if s.isAt "+" then return (.atomic e, s.drop 1) else return (e, s)

/-- Parts in a row as one expression; they are in reverse. -/
def ofParts : List Expr → Expr
  | [] => .empty
  | [part] => part
  | parts => .sequence parts.reverse

/-- What a condition asks: of a reference, whether its group has a piece. -/
def condition : Expr → Expr
  | reference n => .kept n
  | e => e

/-- A choice by a condition between alternatives: the first one, and all others. -/
def choose (asked : Expr) (branches : Expr) : Expr :=
  let (yes, no) :=
    match branches with
    | alternatives (yes :: [no]) => (yes, no)
    | alternatives (yes :: others) => (yes, alternatives others)
    | e => (e, empty)
  if yes.isEmpty && no.isEmpty then asked else .choice asked yes no

mutual

/-- Alternatives up to the end of the group, behind those already read. Groups may not be referred
to by number where some have names, which is looked at where there is only one alternative. -/
def readAlternatives : Nat → Nat → List Expr → Scan → Step
  | 0, _, _, _ => none
  | fuel + 1, depth, before, s =>
    match readBranch fuel depth [] s with
    | none => none
    | some (e, s) =>
      match s.skip with
      | none => none
      | some s =>
        if s.isAt "|" then readAlternatives fuel depth (e :: before) (s.drop 1)
        else if !before.isEmpty then some (.alternatives (e :: before).reverse, s)
        else if s.numbered && !s.names.isEmpty then none
        else some (e, s)

/-- Parts in a row up to a bar or the end of the group, behind those already read. -/
def readBranch : Nat → Nat → List Expr → Scan → Step
  | 0, _, _, _ => none
  | fuel + 1, depth, parts, s =>
    match readAtom fuel depth s with
    | none => none
    | some (e, behind) =>
      match behind.skip.bind (repeatPart e) with
      | none => none
      | some (e, next) =>
        if next.rest.length == s.rest.length then some (ofParts parts, s)
        else readBranch fuel depth (if e.isEmpty then parts else e :: parts) next

/-- What stands at one place, without its repetition. -/
def readAtom : Nat → Nat → Scan → Step
  | 0, _, _ => none
  | fuel + 1, depth, s =>
    match s.skip with
    | none => none
    | some s =>
      match s.rest with
      | [] => some (.empty, s)
      | '.' :: _ => some (.any s.style.dotAll, s.drop 1)
      | '^' :: _ => some (.place (if s.style.lines then .lineStart else .start), s.drop 1)
      | '$' :: _ => some (.place (if s.style.lines then .lineFinish else .finish), s.drop 1)
      | '(' :: _ => if depth + 1 < greatestNesting then readGroup fuel (depth + 1) s else none
      | '\\' :: _ =>
        (readEscape false s).bind fun r => (r.1.expr? s.style.caseless).map fun e => (e, r.2)
      | '[' :: _ => readSet s
      | c :: _ =>
        if "+*?|)".toList.contains c then some (.empty, s)
        else some (.literal c s.style.caseless, s.drop 1)

/-- The group whose parenthesis is here. -/
def readGroup : Nat → Nat → Scan → Step
  | 0, _, _ => none
  | fuel + 1, depth, s =>
    match (s.drop 1).skip with
    | none => none
    | some s =>
      if s.isAt "?P=" then (s.drop 2).namedReference '=' ')' false
      else if s.isAt "?(" then readChoice fuel depth (s.drop 2)
      else if s.isAt "?" && (["?=", "?!", "?<", "?P<", "?>"].all fun t => !s.isAt t) then
        match readLetters (s.rest.length + 1) 0 true (s.drop 1) with
        | none => none
        | some (false, s) => some (.empty, s)
        | some (true, inner) =>
          match readAlternatives fuel depth [] inner with
          | some (e, behind) =>
            if behind.isAt ")" then some (e, { behind.drop 1 with style := s.style }) else none
          | none => none
      else
        match openGroup s with
        | none => none
        | some (opening, s) =>
          match readAlternatives fuel depth [] s with
          | some (e, s) => (closeGroup s).map fun s => (opening.close e, s)
          | none => none

/-- A choice; the place is behind the parenthesis of the condition. -/
def readChoice : Nat → Nat → Scan → Step
  | 0, _, _ => none
  | fuel + 1, depth, s =>
    let asked :=
      if s.rest.head?.any Char.isDigit then s.numberedReference
      else if s.isAt "'" then s.namedReference '\'' '\'' true
      else if s.isAt "<" then s.namedReference '<' '>' true
      else readAlternatives fuel depth [] s
    match asked.bind fun r => (closeGroup r.2).map fun s => (r.1, s) with
    | none => none
    | some (asked, s) =>
      match readAlternatives fuel depth [] s with
      | none => none
      | some (branches, behind) =>
        match asked, behind.rest.length == s.rest.length with
        | reference n, true => (closeGroup behind).map fun s => (.kept n, s)
        | _, true => none
        | asked, false =>
          (closeGroup behind).map fun s => (choose (condition asked) branches, s)

end

/-- How a text is read at its start. -/
def Style.plain : Style := ⟨false, false, false, false, false⟩

def read (text : List Char) : Option Expr :=
  match readAlternatives (8 * text.length + 8) 0 []
      ⟨text, .plain, 0, [], false, Text.utf8Length text / 2⟩ with
  | some (e, s) => if s.rest.isEmpty then some e else none
  | none => none

end DocCheck.Pattern.Expr
