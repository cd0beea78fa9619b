/-!
# Labels in letters of the alphabet

A label of a host's name in any script can be written with the letters, digits and the hyphen of
ASCII: first the characters that are ASCII already, then, behind a hyphen, where each of the others
belongs. They are taken in the order of their code points; the distance from one to the next is
written with digits of a base that is fitted to the distances before.

* `Format.spellLabel` — writes a label;
* `Format.readLabel?` — reads one.
-/

namespace DocCheck.Format

/-- The digit of a value below 36. -/
def labelDigit (d : Nat) : Char := Char.ofNat (if d < 26 then 97 + d else 22 + d)

def labelValue? (c : Char) : Option Nat :=
  if 'a' ≤ c && c ≤ 'z' then some (c.toNat - 97)
  else if 'A' ≤ c && c ≤ 'Z' then some (c.toNat - 65)
  else if '0' ≤ c && c ≤ '9' then some (c.toNat - 22)
  else none

/-- The digits from this value on have another one behind them; `place` counts in steps of 36. -/
def labelThreshold (place bias : Nat) : Nat :=
  if place ≤ bias then 1 else if bias + 26 ≤ place then 26 else place - bias

theorem labelThreshold_pos (place bias : Nat) : 1 ≤ labelThreshold place bias := by
  unfold labelThreshold
  split
  · exact Nat.le_refl 1
  · split <;> omega

/-- Counts how many digits a distance needs. -/
def settle (distance place : Nat) : Nat :=
  if 455 < distance then settle (distance / 35) (place + 36)
  else place + 36 * distance / (distance + 38)
termination_by distance
decreasing_by exact Nat.div_lt_self (by omega) (by omega)

/-- The fit to a distance, when so many characters are placed; the first distance counts less. -/
def labelBias (distance placed : Nat) (first : Bool) : Nat :=
  let scaled := if first then distance / 700 else distance / 2
  settle (scaled + scaled / placed) 0

/-! ### Writing -/

def distanceDigits (bias place distance : Nat) : List Char :=
  let t := labelThreshold place bias
  if distance < t then [labelDigit distance]
  else
    labelDigit (t + (distance - t) % (36 - t))
      :: distanceDigits bias (place + 36) ((distance - t) / (36 - t))
termination_by distance
decreasing_by
  have h := labelThreshold_pos place bias
  exact Nat.lt_of_le_of_lt (Nat.div_le_self _ _) (by omega)

/-- Where writing has come to. -/
structure Spelling where
  /-- What is written. -/
  written : List Char
  /-- The distance from the last character that was placed. -/
  distance : Nat
  /-- The fit to the distances before. -/
  bias : Nat
  /-- How many characters are placed. -/
  placed : Nat

/-- Passes a character of the label while those of code point `n` are placed; `plain` characters are
ASCII. -/
def Spelling.pass (plain n : Nat) (s : Spelling) (c : Char) : Spelling :=
  if c.toNat < n then { s with distance := s.distance + 1 }
  else if c.toNat == n then
    { written := s.written ++ distanceDigits s.bias 36 s.distance
      distance := 0
      bias := labelBias s.distance (s.placed + 1) (s.placed == plain)
      placed := s.placed + 1 }
  else s

/-- Places the characters of the code points to come; `next` is the least that may come. -/
def Spelling.place (label : List Char) (plain : Nat) : Nat → List Nat → Spelling → Spelling
  | _, [], s => s
  | next, n :: ns, s =>
    let there := { s with distance := s.distance + (n - next) * (s.placed + 1) }
    let passed := label.foldl (Spelling.pass plain n) there
    Spelling.place label plain (n + 1) ns { passed with distance := passed.distance + 1 }

/-- A label with the characters of ASCII. -/
def spellLabel (label : List Char) : List Char :=
  let plain := label.filter fun c => c.toNat < 0x80
  let others := ((label.filter fun c => 0x80 ≤ c.toNat).map Char.toNat).mergeSort.eraseDups
  let start : Spelling := ⟨[], 0, 72, plain.length⟩
  (if plain.isEmpty then [] else plain ++ ['-'])
    ++ (Spelling.place label plain.length 128 others start).written

/-! ### Reading -/

/-- Reads the digits of a distance, which is added to `sum`, and gives what is behind them. -/
def readDistance? (bias place weight sum : Nat) : List Char → Option (Nat × List Char)
  | [] => none
  | c :: cs =>
    match labelValue? c with
    | none => none
    | some d =>
      let t := labelThreshold place bias
      if d < t then some (sum + d * weight, cs)
      else readDistance? bias (place + 36) (weight * (36 - t)) (sum + d * weight) cs

/-- Reading a distance takes at least one digit. -/
theorem length_of_readDistance? {bias place weight sum : Nat} {cs rest : List Char} {n : Nat}
    (h : readDistance? bias place weight sum cs = some (n, rest)) : rest.length < cs.length := by
  induction cs generalizing place weight sum with
  | nil => simp [readDistance?] at h
  | cons c cs ih =>
    rw [readDistance?] at h
    split at h
    · simp at h
    · simp only at h
      split at h
      · simp only [Option.some.injEq, Prod.mk.injEq] at h
        simp [← h.2]
      · exact Nat.lt_succ_of_lt (ih h)

/-- Places the characters of the distances to come; `next` is the code point and `place` the place
that were reached. -/
def readPlaces? (bias next place : Nat) (placed : List Char) (cs : List Char) :
    Option (List Char) :=
  if cs.isEmpty then some placed
  else
    match _h : readDistance? bias 36 1 place cs with
    | none => none
    | some (reached, rest) =>
      let count := placed.length + 1
      let n := next + reached / count
      if n.isValidChar then
        readPlaces? (labelBias (reached - place) count (place == 0)) n (reached % count + 1)
          (placed.insertIdx (reached % count) (Char.ofNat n)) rest
      else none
termination_by cs.length
decreasing_by exact length_of_readDistance? ‹_›

/-- The label that characters of ASCII stand for. The last hyphen ends those that stand for
themselves, if there are any. -/
def readLabel? (cs : List Char) : Option (List Char) :=
  let tail := (cs.reverse.takeWhile (· != '-')).reverse
  let plain := cs.take (cs.length - tail.length - 1)
  readPlaces? 72 128 0 plain (if plain.isEmpty then cs else tail)

end DocCheck.Format
