/-!
# UTF-8

How many bytes characters take, and where bytes cease to be text. A byte below 128 is a character by
itself; the others start a row of two to four bytes, each but the first between 128 and 191, and not
every row is a character.

* `Text.utf8Length`, `Text.takeBytes`, `Text.dropBytes` — bytes counted and cut;
* `Text.Utf8Fault`, `Text.utf8Fault?` — the first bytes that are no character;
* `Text.ofBytes` — bytes as a text, whatever they are.
-/

namespace DocCheck.Text

/-- The number of bytes that characters take in UTF-8. -/
def utf8Length : List Char → Nat
  | [] => 0
  | c :: cs => c.utf8Size + utf8Length cs

/-- The characters in the first bytes of a text. -/
def takeBytes : Nat → List Char → List Char
  | _, [] => []
  | n, c :: cs => if c.utf8Size ≤ n then c :: takeBytes (n - c.utf8Size) cs else []

/-- The characters behind the first bytes of a text. -/
def dropBytes (n : Nat) (cs : List Char) : List Char := cs.drop (takeBytes n cs).length

/-- Bytes that are no character. -/
structure Utf8Fault where
  /-- How many bytes stand before them. -/
  index : Nat
  /-- How many bytes they are; nothing if the text ends before that shows. -/
  length : Option Nat
  deriving DecidableEq

def Utf8Fault.message (f : Utf8Fault) : String :=
  match f.length with
  | some n => "invalid utf-8 sequence of " ++ toString n ++ " bytes from index " ++ toString f.index
  | none => "incomplete utf-8 byte sequence from index " ++ toString f.index

/-- A row of bytes of which some have been read. -/
structure Utf8Row where
  /-- The code point, as far as the bytes say it. -/
  value : Nat
  /-- How many bytes have been read. -/
  size : Nat
  /-- The least byte that may come next. -/
  low : UInt8
  /-- The greatest byte that may come next. -/
  high : UInt8
  /-- How many more bytes follow that. -/
  more : Nat

namespace Utf8Row

/-- The row that a byte of at least 128 starts, if it starts one. -/
def start? (b : UInt8) : Option Utf8Row :=
  if b < 0xC2 then none
  else if b < 0xE0 then some ⟨b.toNat - 0xC0, 1, 0x80, 0xBF, 0⟩
  else if b == 0xE0 then some ⟨0, 1, 0xA0, 0xBF, 1⟩
  else if b == 0xED then some ⟨0x0D, 1, 0x80, 0x9F, 1⟩
  else if b < 0xF0 then some ⟨b.toNat - 0xE0, 1, 0x80, 0xBF, 1⟩
  else if b == 0xF0 then some ⟨0, 1, 0x90, 0xBF, 2⟩
  else if b < 0xF4 then some ⟨b.toNat - 0xF0, 1, 0x80, 0xBF, 2⟩
  else if b == 0xF4 then some ⟨4, 1, 0x80, 0x8F, 2⟩
  else none

/-- Whether a byte may come next. -/
def accepts (r : Utf8Row) (b : UInt8) : Bool := r.low ≤ b && b ≤ r.high

/-- The row with one more byte: a character if that was the last one. -/
def push (r : Utf8Row) (b : UInt8) : Char ⊕ Utf8Row :=
  let value := 64 * r.value + (b.toNat - 0x80)
  match r.more with
  | 0 => .inl (Char.ofNat value)
  | more + 1 => .inr ⟨value, r.size + 1, 0x80, 0xBF, more⟩

end Utf8Row

/-- The first fault in bytes, of which `index` stand before; a row may have been started. -/
def utf8FaultFrom (index : Nat) : Option Utf8Row → List UInt8 → Option Utf8Fault
  | none, [] => none
  | some row, [] => some ⟨index - row.size, none⟩
  | none, b :: bs =>
    if b < 0x80 then utf8FaultFrom (index + 1) none bs
    else
      match Utf8Row.start? b with
      | none => some ⟨index, some 1⟩
      | some row => utf8FaultFrom (index + 1) (some row) bs
  | some row, b :: bs =>
    if row.accepts b then utf8FaultFrom (index + 1) (row.push b).getRight? bs
    else some ⟨index - row.size, some row.size⟩

/-- The first bytes that are no character, if there are any. -/
def utf8Fault? (bytes : List UInt8) : Option Utf8Fault := utf8FaultFrom 0 none bytes

/-- Stands for bytes that are no character. -/
def replacement : Char := '\uFFFD'

/-- What a byte gives where no row has been started: characters, and a row that it starts. -/
def readByte (b : UInt8) : List Char × Option Utf8Row :=
  if b < 0x80 then ([Char.ofNat b.toNat], none)
  else
    match Utf8Row.start? b with
    | some row => ([], some row)
    | none => ([replacement], none)

/-- The characters of bytes; a row may have been started. -/
def charsFrom : Option Utf8Row → List UInt8 → List Char
  | none, [] => []
  | some _, [] => [replacement]
  | none, b :: bs => (readByte b).1 ++ charsFrom (readByte b).2 bs
  | some row, b :: bs =>
    if row.accepts b then
      match row.push b with
      | .inl c => c :: charsFrom none bs
      | .inr longer => charsFrom (some longer) bs
    else replacement :: (readByte b).1 ++ charsFrom (readByte b).2 bs

/-- Bytes as a text, with `replacement` for each fault in them. -/
def ofBytes (bytes : List UInt8) : String := String.ofList (charsFrom none bytes)

end DocCheck.Text
