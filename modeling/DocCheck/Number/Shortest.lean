import DocCheck.Number.Binary64

/-!
# Shortest decimals

The shortest decimal of a finite positive number is the one with the fewest digits among those that
round to it; of two with equally few digits the nearer is taken, and of two equally near the one
with an even last digit.

The numbers that round to `x` form an interval around it, whose ends belong to it exactly when the
significand of `x` is even. For one digit, two digits and so on up to seventeen, the two neighbours
of `x` on that decimal grid are tested against the interval (`Binary64.shortest`). If any point of
a grid lies in the interval, one of these two neighbours does, so the first grid with a hit has the
fewest digits.

`DecimalStyle` records how a format lays the digits out; `DecimalStyle.render` does it.
-/

namespace DocCheck

/-- A positive decimal `0.d₁d₂… * 10 ^ point`, its digits without trailing zeros. -/
structure Decimal where
  /-- The digits `d₁d₂…` read as one natural number. -/
  digits : Nat
  /-- Where the point stands: the value is below `10 ^ point` and at least a tenth of that. -/
  point : Int
  deriving DecidableEq

namespace Binary64

/-- The magnitude of `x` and half the distances to its lower and upper neighbours, all over the one
denominator `unit`. -/
structure Neighbourhood where
  /-- The magnitude, in units. -/
  value : Nat
  /-- The lower end of the interval that rounds to the number, in units. -/
  lower : Nat
  /-- The upper end of that interval, in units. -/
  upper : Nat
  /-- Whether the ends themselves round to the number. -/
  closed : Bool
  /-- How many units make one. -/
  unit : Nat

/-- The interval of numbers that round to `x`. Below a power of two the spacing is half as wide. -/
def neighbourhood (x : Binary64) : Neighbourhood :=
  let m := x.significand
  let narrow := x.fraction == 0 && decide (1 < x.biasedExponent)
  let widen : Nat := if 0 ≤ x.exponent then Nat.pow 2 x.exponent.toNat else 1
  { value := 4 * m * widen
    lower := (4 * m - (if narrow then 1 else 2)) * widen
    upper := (4 * m + 2) * widen
    closed := m % 2 == 0
    unit := 4 * x.denominator }

namespace Neighbourhood

/-- Whether the decimal `n * 10 ^ e` rounds to the number. -/
def contains (h : Neighbourhood) (n : Nat) (e : Int) : Bool :=
  let a := if 0 ≤ e then n * Nat.pow 10 e.toNat * h.unit else n * h.unit
  let s := if 0 ≤ e then 1 else Nat.pow 10 (-e).toNat
  if h.closed then decide (h.lower * s ≤ a) && decide (a ≤ h.upper * s)
  else decide (h.lower * s < a) && decide (a < h.upper * s)

/-- The largest multiple of `10 ^ e` that is no larger than the number, and whether the next one up
is nearer: a tie goes to the even one. -/
def below (h : Neighbourhood) (e : Int) : Nat × Bool :=
  let num := if 0 ≤ e then h.value else h.value * Nat.pow 10 (-e).toNat
  let den := if 0 ≤ e then h.unit * Nat.pow 10 e.toNat else h.unit
  let q := num / den
  (q, roundHalfEven num den != q)

end Neighbourhood

/-- Removes factors of ten, at most `fuel` of them. -/
def stripZeros : Nat → Nat → Nat
  | 0, n => n
  | fuel + 1, n => if n % 10 = 0 && n != 0 then stripZeros fuel (n / 10) else n

/-- The least `k` with `x < 10 ^ k`, for a positive magnitude `num / den`. -/
def decimalPoint (num den : Nat) : Int :=
  let guess : Int := floorLog2 num den * 30103 / 100000
  let reaches (k : Int) : Bool :=
    if 0 ≤ k then decide (den * Nat.pow 10 k.toNat ≤ num)
    else decide (den ≤ num * Nat.pow 10 (-k).toNat)
  if reaches (guess + 1) then guess + 2 else if reaches guess then guess + 1 else guess

/-- Tries the decimal grids with `n`, `n + 1`, … digits. -/
def shortestFrom (h : Neighbourhood) (point : Int) : Nat → Nat → Decimal
  | 0, n => ⟨(h.below (point - n)).1, point⟩
  | fuel + 1, n =>
    let e := point - (n : Int)
    let (q, up) := h.below e
    let lowHit := h.contains q e
    let highHit := h.contains (q + 1) e
    let pick (d : Nat) : Decimal :=
      -- A carry to the next power of ten has one digit more than the grid.
      ⟨stripZeros 20 d, if d = Nat.pow 10 n then point + 1 else point⟩
    if lowHit && highHit then pick (if up then q + 1 else q)
    else if lowHit then pick q
    else if highHit then pick (q + 1)
    else shortestFrom h point fuel (n + 1)

/-- The shortest decimal that rounds to the magnitude of a finite number that is not zero. -/
def shortest (x : Binary64) : Decimal :=
  shortestFrom x.neighbourhood (decimalPoint x.numerator x.denominator) 17 1

end Binary64

/-- How a format writes a binary64 number. -/
structure DecimalStyle where
  /-- The least decimal exponent that is still written without an exponent. -/
  leastPlain : Int
  /-- The greatest decimal exponent that is still written without an exponent. -/
  greatestPlain : Int
  /-- What a positive exponent starts with. -/
  positiveSign : String
  /-- The text of positive infinity; negative infinity has a minus sign before it. -/
  infinity : String
  /-- The text of NaN. -/
  nan : String

namespace DecimalStyle

def natDigits (n : Nat) : String := toString n

def intDigits (n : Int) : String :=
  if n < 0 then "-" ++ natDigits n.natAbs else natDigits n.natAbs

/-- Digits without exponent; at least one digit stands on each side of the point. -/
def plain (digits : List Char) (point : Int) : List Char :=
  if point ≤ 0 then '0' :: '.' :: (List.replicate (-point).toNat '0' ++ digits)
  else
    let whole := point.toNat
    if digits.length ≤ whole then
      digits ++ List.replicate (whole - digits.length) '0' ++ ['.', '0']
    else digits.take whole ++ '.' :: digits.drop whole

/-- One digit before the point, and an exponent. -/
def scientific (style : DecimalStyle) (digits : List Char) (exponent : Int) : List Char :=
  let sign := if 0 ≤ exponent then style.positiveSign else ""
  let mark := 'e' :: (sign ++ intDigits exponent).toList
  match digits with
  | [] => mark
  | [d] => d :: mark
  | d :: ds => d :: '.' :: (ds ++ mark)

/-- The text of a number in this style. The sign of a negative zero is kept. -/
def render (style : DecimalStyle) (x : Binary64) : String :=
  let sign := if x.isNegative then ['-'] else []
  if x.isNaN then style.nan
  else if !x.isFinite then String.ofList (sign ++ style.infinity.toList)
  else if x.isZero then String.ofList (sign ++ ['0', '.', '0'])
  else
    let d := x.shortest
    let digits := (natDigits d.digits).toList
    let exponent := d.point - 1
    let body :=
      if style.leastPlain ≤ exponent && exponent ≤ style.greatestPlain then plain digits d.point
      else style.scientific digits exponent
    String.ofList (sign ++ body)

end DecimalStyle

end DocCheck
