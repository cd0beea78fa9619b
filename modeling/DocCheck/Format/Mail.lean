import DocCheck.Text.Blank
import DocCheck.Text.Utf8
import DocCheck.Uri

/-!
# Mail addresses

A mail address has a local part in front of the last at sign and a host behind it. The local part is
a row of atoms with dots between them, or any text between quotes. The address may stand between
angle brackets behind a name for readers.

* `Format.isMailAddress` — the mail addresses at hosts of a form.
-/

namespace DocCheck.Format

/-- Whether a character may stand in an atom. -/
def isAtomChar (c : Char) : Bool :=
  c.isAlphanum || "!#$%&'*+-/=?^_\x60\x7b|\x7d~".toList.contains c || 0x80 ≤ c.toNat

/-- Whether a text may stand between quotes. A backslash lets any visible character of ASCII
stand. -/
def isQuotedContent : List Char → Bool
  | [] => true
  | '\\' :: c :: cs => '!' ≤ c && c ≤ '~' && isQuotedContent cs
  | c :: cs =>
    c != '\\' && c != '"' && (0x20 ≤ c.toNat && c.toNat != 0x7F || c == '\t') && isQuotedContent cs

/-- Whether atoms with dots between them make up a text. -/
def isDotAtom (cs : List Char) : Bool :=
  (Uri.splitAt '.' cs).all fun part => !part.isEmpty && part.all isAtomChar

/-- Whether a text may stand before the at sign. -/
def isLocalPart (cs : List Char) : Bool :=
  !cs.isEmpty && Text.utf8Length cs ≤ 64
    && (if cs.head? == some '"' && cs.getLast? == some '"' then
        2 < cs.length && isQuotedContent ((cs.drop 1).dropLast)
      else isDotAtom cs)

/-- Whether a text is an address of a host between brackets. -/
def isHostAddress (cs : List Char) : Bool :=
  if "IPv6:".toList.isPrefixOf cs then Uri.isIPv6 (cs.drop 5) else Uri.isIPv4 cs

/-- Whether a text may stand behind the at sign. -/
def isDomain (isHost : List Char → Bool) (cs : List Char) : Bool :=
  !cs.isEmpty && Text.utf8Length cs ≤ 254
    && (if cs.head? == some '[' && cs.getLast? == some ']' then
        isHostAddress ((cs.drop 1).dropLast)
      else
        isDotAtom cs && (Uri.splitAt '.' cs).all (Text.utf8Length · ≤ 63) && isHost cs)

/-- What stands behind the last angle bracket with a blank before it, if there is one. The text is
reversed, and `tail` is what was passed. -/
def behindBracket? (tail : List Char) : List Char → Option (List Char)
  | '<' :: ' ' :: _ => some tail
  | c :: cs => behindBracket? (c :: tail) cs
  | [] => none

/-- The address of a text with a name for readers before it, or without one. -/
def bareAddress? (cs : List Char) : Option (List Char) :=
  match behindBracket? [] cs.reverse with
  | none => some cs
  | some tail =>
    let trimmed := Text.trimBlanks tail
    if trimmed.getLast? == some '>' then some trimmed.dropLast else none

/-- Whether a text is a mail address at a host of the given form. -/
def isMailAddress (isHost : List Char → Bool) (cs : List Char) : Bool :=
  match bareAddress? cs with
  | none => false
  | some cs =>
    let domain := (cs.reverse.takeWhile (· != '@')).reverse
    cs.contains '@' && isLocalPart (cs.take (cs.length - domain.length - 1))
      && isDomain isHost domain

end DocCheck.Format
