import DocCheck.Json.Cursor
import DocCheck.Json.Basic
import DocCheck.Text.Utf8

/-!
# Numbers and strings in JSON text

A number without point and exponent that fits into 64 bits is an integer, any other one is a
binary64 number. Its digits, as far as they fit into 64 bits, are taken as a whole number, rounded
to binary64, and then multiplied or divided once by a rounded power of ten
(`JsonScalar.ofParts`); the result can differ from the nearest number in its last bits.

A string ends at the next bare quote. Escapes may stand for any character; characters beyond the
first plane need a pair of surrogates.
-/

namespace DocCheck

namespace JsonScalar

/-- The digit that a character stands for. -/
def digit? (ch : Char) : Option Nat :=
  if '0' ≤ ch && ch ≤ '9' then some (ch.toNat - 48) else none

def nextDigit? (c : Cursor) : Option Nat := c.peek?.bind digit?

/-- Whether the exponent of a number comes next. -/
def atExponent (c : Cursor) : Bool := c.peek? == some 'e' || c.peek? == some 'E'

/-- The greatest whole number that is collected digit by digit. -/
def greatestSignificand : Nat := Nat.pow 2 64 - 1

/-- The greatest exponent that is collected digit by digit. -/
def greatestExponent : Nat := Nat.pow 2 31 - 1

/-- A rounded power of ten, up to `10 ^ 308`. -/
def powerOfTen (n : Nat) : Binary64 := .ofRatio false (Nat.pow 10 n) 1

/-- Divides by `10 ^ 308` until the exponent is in reach. Twice is enough for any significand to
become zero. -/
def scaleDown : Nat → Binary64 → Int → Binary64
  | 0, x, _ => x
  | fuel + 1, x, e =>
    if (-308 : Int) ≤ e then x.div (powerOfTen (-e).toNat)
    else if x.isZero then x
    else scaleDown fuel (x.div (powerOfTen 308)) (e + 308)

/-- The number with the given significand and decimal exponent. -/
def ofParts (negative : Bool) (significand : Nat) (e : Int) (c : Cursor) :
    Except JsonError (Number × Cursor) :=
  let signed (x : Binary64) := .ok (.float (.ofMagnitude negative x.magnitudeBits), c)
  let x := Binary64.ofInt significand
  if e < 0 then signed (scaleDown 4 x e)
  else if x.isZero then signed x
  else if 308 < e then c.fail .numberOutOfRange
  else
    let y := x.mul (powerOfTen e.toNat)
    if y.isFinite then signed y else c.fail .numberOutOfRange

def skipDigits (c : Cursor) : Cursor :=
  Cursor.skipWhile (fun ch => (digit? ch).isSome) c.line c.column c.rest

/-- Collects digits as long as the number stays below the given bound. The answer is the number,
how many digits were taken, and whether a further digit was in the way. -/
def collect (bound : Nat) : List Char → Nat → Nat → Nat × Nat × Bool
  | [], n, count => (n, count, false)
  | ch :: rest, n, count =>
    match digit? ch with
    | none => (n, count, false)
    | some d =>
      if bound < 10 * n + d then (n, count, true) else collect bound rest (10 * n + d) (count + 1)

/-- The cursor after `n` ASCII characters other than line breaks. -/
def advance (n : Nat) (c : Cursor) : Cursor := ⟨c.rest.drop n, c.line, c.column + n⟩

/-- Reads an exponent, its letter included. -/
def readExponent (negative : Bool) (significand : Nat) (start : Int) (c : Cursor) :
    Except JsonError (Number × Cursor) :=
  let c := c.skip
  let down := c.peek? == some '-'
  let c := if down || c.peek? == some '+' then c.skip else c
  match c.peek? with
  | none => c.fail .endInValue
  | some ch =>
    match digit? ch with
    | none => c.failAhead .invalidNumber
    | some _ =>
      let (e, count, tooLong) := collect greatestExponent c.rest 0 0
      let c := advance count c
      if tooLong then
        if significand != 0 && !down then c.skip.fail .numberOutOfRange
        else .ok (.float (.ofMagnitude negative 0), skipDigits c)
      else ofParts negative significand (if down then start - e else start + e) c

/-- Reads what may follow the digits of a number that is not an integer. -/
def readScale (negative : Bool) (significand : Nat) (e : Int) (c : Cursor) :
    Except JsonError (Number × Cursor) :=
  if atExponent c then readExponent negative significand e c else ofParts negative significand e c

/-- Reads a fraction, its point included. Digits that no longer fit are passed over. -/
def readFraction (negative : Bool) (significand : Nat) (e : Int) (c : Cursor) :
    Except JsonError (Number × Cursor) :=
  let c := c.skip
  let (n, count, tooLong) := collect greatestSignificand c.rest significand 0
  if tooLong then readScale negative n (e - count) (skipDigits c)
  else if count = 0 then
    match c.peek? with
    | none => c.failAhead .endInValue
    | some _ => c.failAhead .invalidNumber
  else readScale negative n (e - count) (advance count c)

/-- Reads a number whose sign has been read. -/
def readNumber (negative : Bool) (c : Cursor) : Except JsonError (Number × Cursor) :=
  match c.peek? with
  | none => c.fail .endInValue
  | some '0' =>
    match nextDigit? c.skip with
    | some _ => c.skip.failAhead .invalidNumber
    | none => finish 0 c.skip
  | some ch =>
    match digit? ch with
    | none => c.failAhead .invalidNumber
    | some _ =>
      let (n, count, tooLong) := collect greatestSignificand c.rest 0 0
      let c := advance count c
      if tooLong then
        -- Digits that no longer fit only count toward the exponent.
        let stop := skipDigits c
        let e : Int := stop.column - c.column
        if stop.peek? == some '.' then readFraction negative n e stop
        else readScale negative n e stop
      else finish n c
where
  /-- Decides between an integer and a binary64 number once all digits in front are read. -/
  finish (n : Nat) (c : Cursor) : Except JsonError (Number × Cursor) :=
    if c.peek? == some '.' then readFraction negative n 0 c
    else if atExponent c then readExponent negative n 0 c
    else if !negative then .ok (.int n, c)
    -- No integer is a negative zero, and 64 bits hold none below `-2 ^ 63`.
    else if n = 0 || Nat.pow 2 63 < n then
      .ok (.float (.ofMagnitude true (Binary64.ofInt n).magnitudeBits), c)
    else .ok (.int (-(n : Int)), c)

/-! ### Strings -/

/-- The value of a hexadecimal digit. -/
def hexValue? (ch : Char) : Option Nat :=
  if '0' ≤ ch && ch ≤ '9' then some (ch.toNat - 48)
  else if 'a' ≤ ch && ch ≤ 'f' then some (ch.toNat - 87)
  else if 'A' ≤ ch && ch ≤ 'F' then some (ch.toNat - 55)
  else none

def readHex (c : Cursor) : Except JsonError (Nat × Cursor) :=
  if Text.utf8Length (c.rest.take 4) < 4 then
    c.failAfter 4 .endInString
  else
    match (c.rest.take 4).mapM hexValue? with
    | some ds => .ok (ds.foldl (fun n d => 16 * n + d) 0, advance 4 c)
    | none => c.failAfter 4 .invalidEscape

/-- Reads one of the characters that announce a second surrogate. -/
def expectSurrogate (ch : Char) (c : Cursor) : Except JsonError Cursor :=
  match c.peek? with
  | none => c.fail .endInString
  | some d => if d = ch then .ok c.skip else c.failAhead .surrogateCutShort

/-- Reads the digits of an escape by number, and those of a second surrogate where one is due. -/
def readCodePoint (c : Cursor) : Except JsonError (Char × Cursor) := do
  let (n, c) ← readHex c
  -- The second half of a pair cannot come first.
  if 0xDC00 ≤ n && n ≤ 0xDFFF then c.fail .loneSurrogate
  else if n < 0xD800 || 0xDBFF < n then .ok (Char.ofNat n, c)
  else
    let c ← expectSurrogate '\\' c
    let c ← expectSurrogate 'u' c
    let (m, c) ← readHex c
    if m < 0xDC00 || 0xDFFF < m then c.fail .loneSurrogate
    else .ok (Char.ofNat ((n - 0xD800) * 0x400 + (m - 0xDC00) + 0x10000), c)

/-- Reads an escape whose backslash has been read. -/
def readEscape (c : Cursor) : Except JsonError (Char × Cursor) :=
  match c.peek? with
  | none => c.fail .endInString
  | some '"' => .ok ('"', c.skip)
  | some '\\' => .ok ('\\', c.skip)
  | some '/' => .ok ('/', c.skip)
  | some 'b' => .ok ('\x08', c.skip)
  | some 'f' => .ok ('\x0c', c.skip)
  | some 'n' => .ok ('\n', c.skip)
  | some 'r' => .ok ('\r', c.skip)
  | some 't' => .ok ('\t', c.skip)
  | some 'u' => readCodePoint c.skip
  | some _ => c.failAhead .invalidEscape

/-- Reads a string whose opening quote has been read. The fuel bounds the characters of the text. -/
def readString : Nat → List Char → Cursor → Except JsonError (String × Cursor)
  | 0, _, c => c.fail .endInString
  | fuel + 1, acc, c =>
    match c.peek? with
    | none => c.fail .endInString
    | some '"' => .ok (String.ofList acc.reverse, c.skip)
    | some '\\' => do
      let (ch, c) ← readEscape c.skip
      readString fuel (ch :: acc) c
    | some ch =>
      if ch.toNat < 0x20 then c.failAhead .controlCharacter else readString fuel (ch :: acc) c.skip

end JsonScalar

end DocCheck
