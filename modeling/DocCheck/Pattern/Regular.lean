import DocCheck.Pattern.Place

/-!
# Regular patterns

The patterns that an automaton can recognise: characters of a set, places, groups, repetitions,
sequences and alternatives. Which of several pieces a pattern prefers matters only for where the
piece ends and what the groups hold.

* `Regular` — the patterns;
* `Regular.loop`, `Regular.either` — repetitions and alternatives in their simplest form;
* `Regular.size` — the number of bytes that the automaton of a pattern takes.
-/

namespace DocCheck.Pattern

/-- A regular pattern. -/
inductive Regular where
  /-- The empty piece. -/
  | empty
  /-- One character of a set. -/
  | one (set : CharSet)
  /-- The empty piece at such a place. -/
  | place (p : Place)
  /-- A piece that is kept under a number. -/
  | group (index : Nat) (part : Regular)
  /-- So many pieces in a row, as many as can be or as few as can be. -/
  | repeated (part : Regular) (least : Nat) (most : Option Nat) (greedy : Bool)
  /-- Two pieces in a row. -/
  | seq (first second : Regular)
  /-- A piece of one of two patterns; the first is preferred. -/
  | alt (first second : Regular)
  deriving DecidableEq, Inhabited

namespace Regular

/-- The least number of characters in a piece. -/
def leastLength : Regular → Nat
  | empty | place _ => 0
  | one _ => 1
  | group _ r => r.leastLength
  | repeated r least _ _ => least * r.leastLength
  | seq a b => a.leastLength + b.leastLength
  | alt a b => min a.leastLength b.leastLength

def isAlwaysEmpty : Regular → Bool
  | empty | place _ => true
  | one _ => false
  | group _ r => r.isAlwaysEmpty
  | repeated r _ most _ => most == some 0 || r.isAlwaysEmpty
  | seq a b | alt a b => a.isAlwaysEmpty && b.isAlwaysEmpty

/-- A repetition. Of empty pieces one says as much as any number. -/
def loop (part : Regular) (least : Nat) (most : Option Nat) (greedy : Bool) : Regular :=
  if most == some 0 then empty
  else if least == 1 && most == some 1 then part
  else if part.isAlwaysEmpty then repeated part (min least 1) (some 1) greedy
  else repeated part least most greedy

/-- The set of a pattern that is one. -/
def set? : Regular → Option CharSet
  | one s => some s
  | _ => none

/-- Alternatives. Where each is a set of characters, together they are one. -/
def either (parts : List Regular) : Regular :=
  let sets := parts.filterMap set?
  if sets.length == parts.length then one (.unions sets)
  else
    match parts.reverse with
    | [] => one .none
    | last :: before => before.foldl (fun acc r => alt r acc) last

def inTurn (parts : List Regular) : Regular :=
  match parts.reverse with
  | [] => empty
  | last :: before => before.foldl (fun acc r => seq r acc) last

/-! ### Size

An automaton over bytes takes 32 bytes for each state, 8 for each further choice of a byte and 4 for
each way on from a fork. The set of characters beyond ASCII is a fork over sequences of byte ranges,
which share what they begin with. -/

/-- The bytes of a code point in UTF-8. -/
def utf8Bytes (n : Nat) : List Nat :=
  if n < 0x80 then [n]
  else if n < 0x800 then [0xC0 + n / 64, 0x80 + n % 64]
  else if n < 0x10000 then [0xE0 + n / 4096, 0x80 + n / 64 % 64, 0x80 + n % 64]
  else [0xF0 + n / 262144, 0x80 + n / 4096 % 64, 0x80 + n / 64 % 64, 0x80 + n % 64]

/-- Where a range has to be divided so that each part takes the same number of bytes and ends at the
same place in all its bytes: the last code point of the first part. -/
def divide? (first last : Nat) : Option Nat :=
  if first < 0xE000 && 0xD7FF < last then some 0xD7FF
  else
    match [0x7F, 0x7FF, 0xFFFF].find? fun m => first ≤ m && m < last with
    | some m => some m
    | none =>
      if last < 0x80 then none
      else
        let step (low : Nat) : Option Nat :=
          if first / low == last / low then none
          else if first % low != 0 then some (first / low * low + low - 1)
          else if last % low != low - 1 then some (last / low * low - 1)
          else none
        ((step 64).or (step 4096)).or (step 262144)

/-- The sequences of byte ranges that make up a range of code points. -/
def byteRanges : Nat → Nat → Nat → List (List (Nat × Nat))
  | 0, _, _ => []
  | fuel + 1, first, last =>
    match divide? first last with
    | none => [(utf8Bytes first).zip (utf8Bytes last)]
    | some m =>
      let second := if m == 0xD7FF then 0xE000 else m + 1
      byteRanges fuel first m ++ (if second ≤ last then byteRanges fuel second last else [])

/-- The number of byte ranges at the start of a list that stand at the start of another too. -/
def sharedLength : List (Nat × Nat) → List (Nat × Nat) → Nat
  | a :: as, b :: bs => if a == b then sharedLength as bs + 1 else 0
  | _, _ => 0

/-- The number of states for sequences of byte ranges in order. -/
def stateCount (before : List (Nat × Nat)) : List (List (Nat × Nat)) → Nat
  | [] => 0
  | s :: rest => (s.length - sharedLength before s) + stateCount s rest

/-- The number of bytes for a set of characters. -/
def setSize (s : CharSet) : Nat :=
  match s.ranges with
  | [] => 32
  | [(a, b)] =>
    if a == b then 32 * (utf8Bytes a).length
    else if b < 0x80 then 64
    else 64 + longSize s.ranges
  | ranges =>
    if ranges.all fun r => r.2 < 0x80 then 64 + 8 * ranges.length else 64 + longSize ranges
where
  /-- The number of bytes for the sequences of some ranges. -/
  longSize (ranges : List (Nat × Nat)) : Nat :=
    let sequences := ranges.flatMap fun r => byteRanges 32 r.1 r.2
    32 * stateCount [] sequences + 4 * sequences.length

/-- The number of bytes for a pattern. The flag says whether groups are counted. -/
def size (groups : Bool) : Regular → Nat
  | empty | place _ => 32
  | one s => setSize s
  | group _ r => r.size groups + (if groups then 64 else 0)
  | repeated r least most _ =>
    let part := r.size groups
    match most with
    | some m =>
      if least == 0 && m == 1 then part + 72
      else if least == m then max 32 (least * part)
      else max 32 (least * part) + 32 + (m - least) * (part + 40)
    | none =>
      if least == 0 then part + (if r.leastLength == 0 then 112 else 40) else least * part + 40
  | seq a b => a.size groups + b.size groups
  | alt a b => a.size groups + b.size groups + 68

/-- The number of bytes that an automaton may take. -/
def sizeLimit : Nat := 10 * 1024 * 1024

/-- Whether a pattern is too large for an automaton. -/
def isTooLarge (r : Regular) : Bool := sizeLimit < r.size true || sizeLimit < r.size false

end Regular

end DocCheck.Pattern
