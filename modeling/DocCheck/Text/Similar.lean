/-!
# Similar words

How much alike two words are, by the characters that they share at nearly the same places.

* `Text.sharedFrom` — the characters that both words have;
* `Text.isSimilar` — whether one word may be a slip for the other.
-/

namespace DocCheck.Text

/-- Marks the first free character of a word that is `c` and stands at least at `low` and below
`high`; the word starts at `place`. -/
def claimFirst? (c : Char) (low high : Nat) : Nat → List (Char × Bool) →
    Option (List (Char × Bool))
  | _, [] => none
  | place, (d, taken) :: rest =>
    if low ≤ place && place < high && d == c && !taken then some ((d, true) :: rest)
    else (claimFirst? c low high (place + 1) rest).map ((d, taken) :: ·)

/-- The characters of one word, from `place` on, that the other has within `range` places, and the
other with those marked. -/
def sharedFrom (range : Nat) : Nat → List Char → List (Char × Bool) →
    List Char × List (Char × Bool)
  | _, [], other => ([], other)
  | place, c :: cs, other =>
    match claimFirst? c (place - range) (place + range + 1) 0 other with
    | some other => (sharedFrom range (place + 1) cs other).map (c :: ·) id
    | none => sharedFrom range (place + 1) cs other

/-- Whether a word is like another one. Three fractions are at least 0.7 in the mean: the part of
either word that is shared, and the part of the shared characters that stand in the same order in
both. -/
def isSimilar (word other : List Char) : Bool :=
  let range := max word.length other.length / 2 - 1
  let (shared, marked) := sharedFrom range 0 word (other.map fun c => (c, false))
  let partners := (marked.filter fun p => p.2).map Prod.fst
  let swaps := ((shared.zip partners).countP fun p => p.1 != p.2) / 2
  let n := shared.length
  n != 0 && 21 * word.length * other.length * n
    ≤ 10 * (n * n * other.length + n * n * word.length
      + (n - swaps) * word.length * other.length)

end DocCheck.Text
