import DocCheck.Text.Printable

/-!
# Quoted texts

A text between double quotes in which every character can be seen: backslashes and quotes are
escaped, the usual control characters have a letter, and any other character that does not stand on
its own is written by its number.

* `Text.quoted` — keeps apostrophes;
* `Text.quotedPath` — escapes apostrophes too, as file names are written.
-/

namespace DocCheck.Text

/-- Lower-case hexadecimal digits, without leading zeros. -/
def hexDigits (n : Nat) : List Char := Nat.toDigits 16 n

/-- One character of a quoted text. -/
def quotedChar (apostrophe : Bool) (c : Char) : List Char :=
  if c = '\x00' then ['\\', '0']
  else if c = '\t' then ['\\', 't']
  else if c = '\r' then ['\\', 'r']
  else if c = '\n' then ['\\', 'n']
  else if c = '\\' then ['\\', '\\']
  else if c = '"' then ['\\', '"']
  else if apostrophe && c = '\'' then ['\\', '\'']
  else if isPrintable c then [c]
  else ['\\', 'u', '{'] ++ hexDigits c.toNat ++ ['}']

def quoted (s : String) : String :=
  String.ofList ('"' :: (s.toList.flatMap (quotedChar false) ++ ['"']))

def quotedPath (s : String) : String :=
  String.ofList ('"' :: (s.toList.flatMap (quotedChar true) ++ ['"']))

end DocCheck.Text
