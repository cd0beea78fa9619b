import DocCheck.Yaml.Value

/-!
# What plain scalars stand for

A plain scalar is null, a truth value, a number or a string, as its spelling says. Integers may be
written in base ten, or behind `0x`, `0o` or `0b`; several digits that start with a zero are a
string. Integers beyond 64 bits are refused as long as they fit into 128 bits, and count as binary64
numbers beyond that.

* `Scalar.isNull`, `Scalar.bool?`, `Scalar.float?` — the single readings;
* `Scalar.integer?` — integers, with the refused ones apart;
* `Scalar.resolve` — the value of a plain scalar.
-/

namespace DocCheck.Yaml

/-- An integer that a scalar spells. -/
inductive Integer where
  /-- One that fits into 64 bits, with or without sign. -/
  | narrow (n : Int)
  /-- One that only fits into 128 bits without sign. -/
  | wideUnsigned (n : Nat)
  /-- A negative one that only fits into 128 bits with sign. -/
  | wideSigned (n : Int)
  deriving DecidableEq

namespace Scalar

/-- Whether a scalar spells null. The empty scalar does not; it is null all the same where it is
plain. -/
def isNull (s : String) : Bool := s == "~" || s == "null" || s == "Null" || s == "NULL"

/-- The truth value that a scalar spells. -/
def bool? (s : String) : Option Bool :=
  if s == "true" || s == "True" || s == "TRUE" then some true
  else if s == "false" || s == "False" || s == "FALSE" then some false
  else none

/-! ### Integers -/

/-- The value of a digit in bases up to sixteen. -/
def digit? (base : Nat) (c : Char) : Option Nat :=
  let d :=
    if '0' ≤ c && c ≤ '9' then some (c.toNat - 48)
    else if 'a' ≤ c && c ≤ 'f' then some (c.toNat - 87)
    else if 'A' ≤ c && c ≤ 'F' then some (c.toNat - 55)
    else none
  d.filter (· < base)

/-- The value of one or more digits. -/
def digits? (base : Nat) (cs : List Char) : Option Nat :=
  if cs.isEmpty then none
  else (cs.mapM (digit? base)).map fun ds => ds.foldl (fun n d => base * n + d) 0

/-- Whether a character is a sign. -/
def isSign (c : Char) : Bool := c == '+' || c == '-'

/-- A scalar without one sign in front. -/
def withoutSign : List Char → List Char
  | c :: cs => if isSign c then cs else c :: cs
  | [] => []

/-- Whether a scalar has several digits of which the first is a zero. -/
def hasLeadingZero (cs : List Char) : Bool :=
  match withoutSign cs with
  | '0' :: c :: rest => (c :: rest).all fun d => '0' ≤ d && d ≤ '9'
  | _ => false

/-- The magnitude that a scalar without sign spells. -/
def magnitude? : List Char → Option Nat
  | '0' :: 'x' :: rest => digits? 16 rest
  | '0' :: 'o' :: rest => digits? 8 rest
  | '0' :: 'b' :: rest => digits? 2 rest
  | cs => if hasLeadingZero cs then none else digits? 10 cs

/-- The integer that a scalar spells, if it fits into 128 bits. -/
def integer? (s : String) : Option Integer :=
  match s.toList with
  | '-' :: cs =>
    (magnitude? cs).bind fun n =>
      if n ≤ Nat.pow 2 63 then some (.narrow (-(n : Int)))
      else if n ≤ Nat.pow 2 127 then some (.wideSigned (-(n : Int)))
      else none
  | cs =>
    -- A plus sign says nothing, but a second sign behind it is no digit.
    let cs := if cs.head? == some '+' then cs.drop 1 else cs
    (magnitude? cs).bind fun n =>
      if n < Nat.pow 2 64 then some (.narrow n)
      else if n < Nat.pow 2 128 then some (.wideUnsigned n)
      else none

/-! ### Binary64 numbers -/

/-- Whether a character is a decimal digit. -/
def isDigit (c : Char) : Bool := '0' ≤ c && c ≤ '9'

/-- The exponent at the end of a number; no text is the exponent zero. -/
def exponent? : List Char → Option Int
  | [] => some 0
  | e :: cs =>
    if e != 'e' && e != 'E' then none
    else
      match cs with
      | '-' :: ds => (digits? 10 ds).map fun n => -(n : Int)
      | '+' :: ds => (digits? 10 ds).map fun n => (n : Int)
      | ds => (digits? 10 ds).map fun n => (n : Int)

/-- The number that digits, a point somewhere among them, and an exponent spell. -/
def decimal? (negative : Bool) (cs : List Char) : Option Binary64 :=
  let whole := cs.takeWhile isDigit
  let rest := cs.drop whole.length
  let pointed := rest.head? == some '.'
  let places := if pointed then (rest.drop 1).takeWhile isDigit else []
  let tail := if pointed then rest.drop (1 + places.length) else rest
  (digits? 10 (whole ++ places)).bind fun n =>
    (exponent? tail).map fun e => .ofDecimal negative n (e - places.length)

/-- The binary64 number that a scalar spells. Numbers too great for one are strings. -/
def float? (s : String) : Option Binary64 :=
  let unsigned := if s.toList.head? == some '+' then String.ofList (s.toList.drop 1) else s
  if [".inf", ".Inf", ".INF"].contains unsigned then some (.infinity false)
  else if ["-.inf", "-.Inf", "-.INF"].contains s then some (.infinity true)
  else if [".nan", ".NaN", ".NAN"].contains s then some .nan
  else
    let x :=
      match s.toList with
      | '+' :: cs => decimal? false cs
      | '-' :: cs => decimal? true cs
      | cs => decimal? false cs
    x.filter Binary64.isFinite

/-- What a plain scalar stands for, or the integer for which there is no value. -/
def resolve (s : String) : Except Integer Value :=
  if s == "" || isNull s then .ok .null
  else
    match bool? s, integer? s with
    | some b, _ => .ok (.bool b)
    | none, some (.narrow n) => .ok (.num (.int n))
    | none, some wide => .error wide
    | none, none =>
      if hasLeadingZero s.toList then .ok (.str s)
      else
        match float? s with
        | some x => .ok (.num (.float x))
        | none => .ok (.str s)

end Scalar

end DocCheck.Yaml
