import DocCheck.Uri

/-!
# URI templates

A template is a URI with gaps between braces. A gap names what fills it, with a sign that says how
in front and perhaps a length or a star behind each name. Names are in small letters.

* `Format.isTemplate` — the templates.
-/

namespace DocCheck.Format

/-- Whether a character is a digit of a byte in a template. -/
def isSmallHex (c : Char) : Bool := c.isDigit || 'a' ≤ c && c ≤ 'f'

/-- Whether a character may stand in a template outside the gaps. -/
def isTemplateChar (c : Char) : Bool :=
  0x20 < c.toNat && !"\"'%<>\\^\x60\x7b|\x7d".toList.contains c

/-- Whether a text is made of small letters, digits, low lines and bytes. -/
def isGapText : List Char → Bool
  | [] => true
  | '%' :: a :: b :: cs => isSmallHex a && isSmallHex b && isGapText cs
  | c :: cs => (c.isLower || c.isDigit || c == '_') && isGapText cs

/-- Whether a text names what fills a gap. -/
def isGapName (cs : List Char) : Bool :=
  let name := cs.takeWhile fun c => c != ':' && c != '*'
  let tail := cs.drop name.length
  let digits := tail.drop 1
  !name.isEmpty && isGapText name
    && (tail.isEmpty || tail == ['*']
      || (tail.head? == some ':' && digits.all Char.isDigit && !digits.isEmpty
        && digits.head? != some '0' && digits.length ≤ 4))

/-- Whether a text is a template. What the open gap holds, if there is one, is in `gap`, the last
character first. -/
def isTemplate : List Char → Option (List Char) → Bool
  | [], gap => gap.isNone
  | '\x7b' :: cs, gap => gap.isNone && isTemplate cs (some [])
  | '\x7d' :: cs, some gap =>
    let inside := gap.reverse
    let inside :=
      if inside.head?.any fun c => "+#./;?&=,!@|".toList.contains c then inside.drop 1 else inside
    (Uri.splitAt ',' inside).all isGapName && isTemplate cs none
  | '%' :: a :: b :: cs, none => isSmallHex a && isSmallHex b && isTemplate cs none
  | c :: cs, some gap => isTemplate cs (some (c :: gap))
  | c :: cs, none => isTemplateChar c && isTemplate cs none

end DocCheck.Format
