/-!
# Sets of characters

A set of characters is held as ranges of code points in increasing order, with a gap between any two
of them. Large sets are written down as a text of run lengths.

* `CharSet`, `CharSet.mem` — the sets and their members;
* `CharSet.ofRanges`, `CharSet.ofRuns` — sets from ranges and from run lengths;
* `CharSet.union`, `CharSet.inter`, `CharSet.compl`, … — their algebra.
-/

namespace DocCheck

/-- A set of characters. -/
structure CharSet where
  /-- The first and the last code point of each range, in increasing order with gaps between. -/
  ranges : List (Nat × Nat)
  deriving DecidableEq, Inhabited

namespace CharSet

/-- Whether a code point is a member. -/
def has (s : CharSet) (n : Nat) : Bool := s.ranges.any fun r => r.1 ≤ n && n ≤ r.2

/-- Whether a character is a member. -/
def mem (s : CharSet) (c : Char) : Bool := s.has c.toNat

def top : Nat := 0x10FFFF

def none : CharSet := ⟨[]⟩

def all : CharSet := ⟨[(0, top)]⟩

/-- The characters between two, both included. -/
def range (first last : Char) : CharSet := ⟨[(first.toNat, last.toNat)]⟩

def single (c : Char) : CharSet := range c c

/-- Joins ranges that overlap or touch; the ranges are ordered by where they begin, and `current` is
the one that may still grow. -/
def joinFrom (current : Nat × Nat) : List (Nat × Nat) → List (Nat × Nat)
  | [] => [current]
  | r :: rest =>
    if r.1 ≤ current.2 + 1 then joinFrom (current.1, max current.2 r.2) rest
    else current :: joinFrom r rest

/-- The set of all characters in some ranges, which may overlap and stand in any order. -/
def ofRanges (ranges : List (Nat × Nat)) : CharSet :=
  match ranges.mergeSort fun a b => a.1 ≤ b.1 with
  | [] => none
  | r :: rest => ⟨joinFrom r rest⟩

def union (a b : CharSet) : CharSet := ofRanges (a.ranges ++ b.ranges)

def unions (sets : List CharSet) : CharSet := ofRanges (sets.flatMap ranges)

/-- The common part of two ranges, if there is one. -/
def overlap (a b : Nat × Nat) : Option (Nat × Nat) :=
  let first := max a.1 b.1
  let last := min a.2 b.2
  if first ≤ last then some (first, last) else Option.none

/-- The common members of two sets. -/
def inter (a b : CharSet) : CharSet :=
  ⟨a.ranges.flatMap fun r => b.ranges.filterMap (overlap r)⟩

/-- The gaps before, between and behind ranges, from a code point on. -/
def gapsFrom (start : Nat) : List (Nat × Nat) → List (Nat × Nat)
  | [] => if start ≤ top then [(start, top)] else []
  | r :: rest =>
    if start < r.1 then (start, r.1 - 1) :: gapsFrom (r.2 + 1) rest else gapsFrom (r.2 + 1) rest

/-- The characters that are no members. -/
def compl (a : CharSet) : CharSet := ⟨gapsFrom 0 a.ranges⟩

/-- The members of the first set that are not in the second. -/
def diff (a b : CharSet) : CharSet := a.inter b.compl

/-- The members of exactly one of two sets. -/
def symmDiff (a b : CharSet) : CharSet := (a.diff b).union (b.diff a)

/-! ### Run lengths -/

/-- The numbers in a text: the digits are letters, in base 26, and the last digit of a number is a
capital. The first digits of the first number may have been read already. -/
def readNumbers : Nat → List Char → List Nat
  | _, [] => []
  | n, c :: cs =>
    if c.isLower then readNumbers (26 * n + (c.toNat - 97)) cs
    else (26 * n + (c.toNat - 65)) :: readNumbers 0 cs

/-- The numbers in the lines of a text; a number may go on in the next line. -/
def readRuns (lines : List String) : List Nat := readNumbers 0 (lines.flatMap String.toList)

/-- Ranges from the numbers of code points to skip and to include, the latter less one, in turn. -/
def rangesFrom (start : Nat) : List Nat → List (Nat × Nat)
  | skip :: more :: rest =>
    (start + skip, start + skip + more) :: rangesFrom (start + skip + more + 1) rest
  | _ => []

/-- The set that a text of run lengths describes. -/
def ofRuns (lines : List String) : CharSet := ⟨rangesFrom 0 (readRuns lines)⟩

/-! ### Sets of ASCII characters -/

def digit : CharSet := range '0' '9'

/-- The letters, digits and underscore of ASCII. -/
def word : CharSet := unions [range 'a' 'z', range 'A' 'Z', digit, single '_']

end CharSet

end DocCheck
