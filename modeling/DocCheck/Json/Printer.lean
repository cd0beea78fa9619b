import DocCheck.Json.Basic
import DocCheck.Number.Shortest

/-!
# JSON text of a value

The compact text of a JSON value: no blanks, members in the order of the object, and every
character beyond the control characters as it is.

* `Json.quoteChars` — a string in quotes;
* `Json.render` — the text of a value.
-/

namespace DocCheck

/-- JSON numbers are written without exponent for decimal exponents from `-5` to `15`, and with a
signed exponent beyond. -/
def jsonDecimals : DecimalStyle :=
  { leastPlain := -5, greatestPlain := 15, positiveSign := "+", infinity := "inf", nan := "NaN" }

namespace Number

def render : Number → String
  | .int n => DecimalStyle.intDigits n
  | .float x => jsonDecimals.render x

end Number

namespace Json

def hexDigit (n : Nat) : Char := Nat.digitChar (n % 16)

/-- One character inside a JSON string. -/
def escapeChar (c : Char) : List Char :=
  if c = '"' then ['\\', '"']
  else if c = '\\' then ['\\', '\\']
  else if c = '\n' then ['\\', 'n']
  else if c = '\r' then ['\\', 'r']
  else if c = '\t' then ['\\', 't']
  else if c = '\x08' then ['\\', 'b']
  else if c = '\x0c' then ['\\', 'f']
  else if c.toNat < 0x20 then ['\\', 'u', '0', '0', hexDigit (c.toNat / 16), hexDigit c.toNat]
  else [c]

/-- A string in quotes, as a list of characters. -/
def quoteChars (cs : List Char) : List Char := '"' :: (cs.flatMap escapeChar ++ ['"'])

def quote (s : String) : String := String.ofList (quoteChars s.toList)

mutual

/-- The text of a value, as a list of characters. -/
def renderChars : Json → List Char
  | .null => "null".toList
  | .bool true => "true".toList
  | .bool false => "false".toList
  | .num n => n.render.toList
  | .str s => quoteChars s.toList
  | .arr xs => '[' :: (renderItems xs ++ [']'])
  | .obj ms => '{' :: (renderMembers ms ++ ['}'])
  termination_by structural j => j

def renderItems : List Json → List Char
  | [] => []
  | [x] => renderChars x
  | x :: y :: rest => renderChars x ++ ',' :: renderItems (y :: rest)
  termination_by structural xs => xs

def renderMembers : List (String × Json) → List Char
  | [] => []
  | [m] => renderMember m
  | m :: n :: rest => renderMember m ++ ',' :: renderMembers (n :: rest)
  termination_by structural ms => ms

/-- A key, a colon and a value. -/
def renderMember : String × Json → List Char
  | (k, v) => quoteChars k.toList ++ ':' :: renderChars v
  termination_by structural m => m

end

def render (j : Json) : String := String.ofList j.renderChars

end Json

end DocCheck
