import DocCheck.Character.Composition

/-!
# The composed form of a text

One text may be written with composed characters or with letters and marks. The composed form takes
all characters apart, puts the marks on a letter into the order of their classes, and composes again
what can be composed. It is meant for texts without characters that stand for another single one.

* `Character.decompose` — the parts of a character;
* `Character.orderMarks` — the order of marks;
* `Character.compose`, `Character.composed` — composing, and the whole of it.
-/

namespace DocCheck.Character

/-! ### Syllables

A syllable of the Korean alphabet is composed by counting: of a leading consonant, a vowel and
perhaps a trailing consonant. -/

/-- The parts of a syllable, if the character is one. -/
def syllableParts? (n : Nat) : Option (List Nat) :=
  if 0xAC00 ≤ n && n ≤ 0xD7A3 then
    let place := n - 0xAC00
    let parts := [0x1100 + place / 588, 0x1161 + place % 588 / 28]
    some (if place % 28 == 0 then parts else parts ++ [0x11A7 + place % 28])
  else none

/-- The syllable of two parts, of which the first may be a syllable without a trailing consonant. -/
def syllable? (a b : Nat) : Option Nat :=
  if 0x1100 ≤ a && a ≤ 0x1112 && 0x1161 ≤ b && b ≤ 0x1175 then
    some (0xAC00 + 588 * (a - 0x1100) + 28 * (b - 0x1161))
  else if 0xAC00 ≤ a && a ≤ 0xD7A3 && (a - 0xAC00) % 28 == 0 && 0x11A8 ≤ b && b ≤ 0x11C2 then
    some (a + (b - 0x11A7))
  else none

/-! ### Taking apart -/

/-- The parts of a code point. The first part is taken apart again, at most `depth` times. -/
def partsOf : Nat → Nat → List Nat
  | 0, n => [n]
  | depth + 1, n =>
    match compositions.find? fun e => e.2.2 == n with
    | some (a, b, _) => partsOf depth a ++ [b]
    | none => (syllableParts? n).getD [n]

/-- The parts of a character. No character is composed more than four times over. -/
def decompose (c : Char) : List Char :=
  if c.toNat < 0xC0 then [c] else (partsOf 4 c.toNat).map Char.ofNat

/-! ### Order of marks -/

/-- Puts a character in front of a text, behind the marks of lower classes if it is a mark. -/
def insertMark (c : Char) : List Char → List Char
  | [] => [c]
  | d :: ds =>
    if 0 < markClass d && markClass d < markClass c then d :: insertMark c ds else c :: d :: ds

/-- Puts marks in a row into the order of their classes; those of one class keep their order. -/
def orderMarks (cs : List Char) : List Char := cs.foldr insertMark []

/-! ### Composing -/

def compose? (a b : Char) : Option Char :=
  let found := (compositions.find? fun e => e.1 == a.toNat && e.2.1 == b.toNat).map (·.2.2)
  (found.or (syllable? a.toNat b.toNat)).map Char.ofNat

/-- Composes a text behind a letter. The marks that did not go into the letter are in `kept`, the
last one first; a mark of a class no lower than that of one before it cannot reach the letter. -/
def composeFrom (letter : Char) (kept : List Char) : List Char → List Char
  | [] => letter :: kept.reverse
  | c :: cs =>
    let reaches := kept.head?.all fun d => markClass d < markClass c
    match if reaches then compose? letter c else none with
    | some composed => composeFrom composed kept cs
    | none =>
      if markClass c == 0 then letter :: kept.reverse ++ composeFrom c [] cs
      else composeFrom letter (c :: kept) cs

/-- Composes what can be composed. Marks at the beginning have no letter. -/
def compose : List Char → List Char
  | [] => []
  | c :: cs => if markClass c == 0 then composeFrom c [] cs else c :: compose cs

/-- The composed form of a text. -/
def composed (cs : List Char) : List Char := compose (orderMarks (cs.flatMap decompose))

end DocCheck.Character
