import DocCheck.Character.Direction
import DocCheck.Character.Joining
import DocCheck.Character.Normal
import DocCheck.Character.Property
import DocCheck.Format.Host.Label
import DocCheck.Format.Host.Mapping
import DocCheck.Uri

/-!
# Names of hosts in any script

A name is put into the form that is looked up, split at its dots, and the labels written in ASCII
are read. Then each label has to keep rules on hyphens, marks, joiners and directions, some
characters have to keep the company they are made for, and the spelling in ASCII must be short.

* `Format.hostForm`, `Format.hostLabels?` — the form that is looked up, and its labels;
* `Format.isInternationalHostName` — the names of hosts.
-/

namespace DocCheck.Format

/-- The form of a text that is looked up; nothing if a character may not stand in a name. -/
def hostForm (cs : List Char) : Option (List Char) :=
  (cs.mapM hostForm?).map fun forms => Character.composed forms.flatten

/-- How a label begins that stands for one in another script. -/
def spelledMark : List Char := ['x', 'n', '-', '-']

/-- The label that is meant by one in its looked-up form. One that is spelled in ASCII must stand
for a label with other characters, in the form that is looked up. -/
def meantLabel? (label : List Char) : Option (List Char) :=
  if spelledMark.isPrefixOf label then
    match readLabel? (label.drop 4) with
    | some meant =>
      if label.all (·.toNat < 0x80) && meant.any (0x80 ≤ ·.toNat) && hostForm meant == some meant
      then some meant
      else none
    | none => none
  else some label

def hostLabels? (cs : List Char) : Option (List (List Char)) :=
  match hostForm cs with
  | some form => (Uri.splitAt '.' form).mapM meantLabel?
  | none => none

/-! ### Rules on one label -/

/-- Whether joiners stand where they have an effect: behind a sign that takes the vowel from a
consonant, or, if letters are kept from joining, between two that would join. What stands before is
in `before`, the last character first. -/
def joinersFit (before : List Char) : List Char → Bool
  | [] => true
  | c :: cs =>
    let killed := before.head?.any fun d => Character.markClass d == 9
    let joined :=
      (before.dropWhile Character.transparent.mem).head?.any Character.joinsNext.mem
        && (cs.dropWhile Character.transparent.mem).head?.any Character.joinsPrevious.mem
    (c != '\u200D' || killed) && (c != '\u200C' || killed || joined) && joinersFit (c :: before) cs

/-- Whether hyphens stand neither at an end nor in the third and fourth place. -/
def hyphensFit (label : List Char) : Bool :=
  label.head? != some '-' && label.getLast? != some '-'
    && !((label.drop 2).head? == some '-' && (label.drop 3).head? == some '-')

/-- Whether a text may be a label, as far as its directions do not matter. -/
def isInternationalLabel (label : List Char) : Bool :=
  !label.isEmpty && hyphensFit label
    && label.all (fun c => 0x80 ≤ c.toNat || c.isAlphanum || c == '-')
    && !label.head?.any Character.mark.mem
    && joinersFit [] label

/-- Whether a character makes directions matter in the whole name. -/
def isRightward (c : Char) : Bool :=
  match Character.direction c with
  | .right | .arabicNumber => true
  | _ => false

/-- Whether the directions of a label's characters go together: a label begins with a letter, has
only letters of the direction of the first, and ends, marks apart, with a letter or a digit. -/
def directionsFit (label : List Char) : Bool :=
  let directions := label.map Character.direction
  let last := (directions.reverse.dropWhile (· == .mark)).head?
  match directions.head? with
  | some .left =>
    directions.all (fun d => d != .right && d != .arabicNumber)
      && (last == some .left || last == some .europeanNumber)
  | some .right =>
    directions.all (· != .left)
      && (last == some .right || last == some .arabicNumber || last == some .europeanNumber)
      && !(directions.contains .arabicNumber && directions.contains .europeanNumber)
  | _ => false

/-! ### Rules on the whole name -/

/-- Whether some characters have the company they are made for. What stands before is in
`before`. -/
def companyFits (before : Option Char) : List Char → Bool
  | [] => true
  | c :: cs =>
    let fits :=
      match c with
      | '\u00B7' => before == some 'l' && cs.head? == some 'l'
      | '\u0375' => cs.head?.any fun d => '\u0370' ≤ d && d ≤ '\u03FF'
      | '\u05F3' | '\u05F4' => before.any fun d => '\u0590' ≤ d && d ≤ '\u05FF'
      | '\u0640' | '\u07FA' | '\u302E' | '\u302F' | '\u3031' | '\u3032' | '\u3033' | '\u3034'
      | '\u3035' | '\u303B' => false
      | _ => true
    fits && companyFits (some c) cs

/-- Whether a character belongs to the scripts that the middle dot of Katakana is made for. -/
def takesMiddleDot (c : Char) : Bool :=
  c != '\u30FB'
    && ('\u3041' ≤ c && c ≤ '\u3096' || '\u309D' ≤ c && c ≤ '\u309F' || '\u30A1' ≤ c && c ≤ '\u30FF'
      || '\u3400' ≤ c && c ≤ '\u4DBF' || '\u4E00' ≤ c && c ≤ '\u9FFF')

/-- Whether a whole name keeps to the rules on company: one with a middle dot of Katakana has
characters of that script or a related one, and the two kinds of Arabic digits are not mixed. -/
def isGoodCompany (name : List Char) : Bool :=
  companyFits none name
    && (!name.contains '\u30FB' || name.any takesMiddleDot)
    && !(name.any (fun c => '\u0660' ≤ c && c ≤ '\u0669')
      && name.any fun c => '\u06F0' ≤ c && c ≤ '\u06F9')

/-- The number of characters of a label when it is written in ASCII. -/
def spelledLength (label : List Char) : Nat :=
  if label.all (·.toNat < 0x80) then label.length
  else spelledMark.length + (spellLabel label).length

/-- Whether a text is the name of a host in any script. -/
def isInternationalHostName (cs : List Char) : Bool :=
  match hostLabels? cs with
  | none => false
  | some labels =>
    let lengths := labels.map spelledLength
    labels.all isInternationalLabel
      && (labels.all (fun label => !label.any isRightward) || labels.all directionsFit)
      && lengths.all (· ≤ 63) && lengths.foldl (· + ·) (labels.length - 1) ≤ 253
      && isGoodCompany (['.'].intercalate labels)

end DocCheck.Format
