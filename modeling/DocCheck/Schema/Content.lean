import DocCheck.Json.Reader
import DocCheck.Text.Utf8

/-!
# Content of strings

A schema may say that a string holds the text of another value, and how its bytes are encoded. One
encoding and one media type are known.

* `Content.decodeBase64?` — the bytes of a text in base 64;
* `Content.isJson` — whether a text is a JSON value.
-/

namespace DocCheck.Schema.Content

def base64 : String := "base64"

/-- The media type that is known. -/
def json : String := "application/json"

/-- The value of a digit in base 64. -/
def digit? (c : Char) : Option Nat :=
  if 'A' ≤ c && c ≤ 'Z' then some (c.toNat - 65)
  else if 'a' ≤ c && c ≤ 'z' then some (c.toNat - 71)
  else if '0' ≤ c && c ≤ '9' then some (c.toNat + 4)
  else if c = '+' then some 62
  else if c = '/' then some 63
  else none

/-- The bytes of a text in base 64. Every four digits make three bytes; the last four may end in one
or two equals signs, and bits that make no byte are zero. -/
def decodeBase64? : List Char → Option (List UInt8)
  | [] => some []
  | [a, b, '=', '='] => do
    let x ← digit? a
    let y ← digit? b
    if y % 16 = 0 then some [UInt8.ofNat (x * 4 + y / 16)] else none
  | [a, b, c, '='] => do
    let x ← digit? a
    let y ← digit? b
    let z ← digit? c
    if z % 4 = 0 then
      some [UInt8.ofNat (x * 4 + y / 16), UInt8.ofNat (y % 16 * 16 + z / 4)]
    else none
  | a :: b :: c :: d :: rest => do
    let x ← digit? a
    let y ← digit? b
    let z ← digit? c
    let w ← digit? d
    let more ← decodeBase64? rest
    some (UInt8.ofNat (x * 4 + y / 16) :: UInt8.ofNat (y % 16 * 16 + z / 4)
      :: UInt8.ofNat (z % 4 * 64 + w) :: more)
  | _ => none

/-- Whether a text is a JSON value. -/
def isJson (text : String) : Bool :=
  match Json.read text with
  | .ok _ => true
  | .error _ => false

end DocCheck.Schema.Content
