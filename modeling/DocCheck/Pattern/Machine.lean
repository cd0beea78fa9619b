import DocCheck.Pattern.Automaton

/-!
# Machines that take back

What an automaton cannot do, a machine does that tries one way after another: where a way fails, it
goes back to the last place where it had a choice. The number of times it does so is limited.

* `Machine` — a program of such a machine;
* `Machine.matchesIn` — whether some piece of a text matches, unless the machine gives up.
-/

namespace DocCheck.Pattern

/-- An instruction of a machine. Addresses are counted from the first instruction. -/
inductive Order where
  /-- Takes any character. -/
  | any
  /-- Takes any character but a line feed. -/
  | anyInLine
  /-- Takes these characters. -/
  | text (cs : List Char)
  /-- Takes the piece that an automaton prefers, and keeps the groups from `first` on. -/
  | piece (automaton : Automaton) (first count : Nat)
  /-- Goes on at such a place only. -/
  | check (p : Place)
  /-- Goes on where the search began only. -/
  | checkStart
  /-- Goes on at the first address, and may be taken back to the second. -/
  | fork (first second : Nat)
  /-- Goes on elsewhere. -/
  | jump (address : Nat)
  /-- Keeps the place in a slot. -/
  | save (slot : Nat)
  /-- Puts zero into a slot. -/
  | clear (slot : Nat)
  /-- Goes back to the place in a slot. -/
  | restore (slot : Nat)
  /-- Begins a repetition once more, or leaves it; a slot holds their number. -/
  | again (least : Nat) (most : Option Nat) (behind counter : Nat) (greedy : Bool)
  /-- The same without limit, for pieces that may be empty: one that is ends the way. A second slot
  holds where the last one began. -/
  | againNonempty (least : Nat) (behind counter begun : Nat) (greedy : Bool)
  /-- Goes back by so many characters. -/
  | back (count : Nat)
  /-- What may not be found is found: fails, up to the way on behind it. -/
  | forbid
  /-- Takes the characters that two slots hold the ends of. -/
  | reference (slot : Nat)
  /-- Goes on if a slot holds a place. -/
  | kept (slot : Nat)
  /-- Begins what is never taken up again. -/
  | beginAtomic
  /-- Ends it: all ways of its inside are given up. -/
  | endAtomic
  /-- The end of the pattern. -/
  | accept
  deriving DecidableEq

/-- A program. -/
structure Machine where
  /-- The instructions; the first one is where a run begins. -/
  code : Array Order
  /-- The number of slots. -/
  slotCount : Nat
  deriving DecidableEq

namespace Machine

/-- Why a machine gives up. -/
inductive Limit where
  /-- It was taken back too often. -/
  | backtracking
  /-- Too many ways are left to try. -/
  | ways
  deriving DecidableEq

/-- How often a machine may be taken back, and how many ways may be left to try. -/
def limit : Nat := 1000000

/-- A way: an address, a place and what is kept. -/
structure Way where
  /-- The address of the next instruction. -/
  address : Nat
  /-- The place in the text. -/
  place : Nat
  /-- What the slots hold. -/
  slots : Slots
  /-- For each atomic part that has begun, the number of ways that were left to try. -/
  atomic : List Nat

/-- The ways that are left to try. -/
structure Ways where
  /-- The ways, the last one first. -/
  list : List Way
  /-- Their number. -/
  count : Nat

/-- What becomes of a way by one instruction. -/
inductive Outcome where
  /-- It goes on, and other ways may be left to try. -/
  | goOn (way : Way) (ways : Ways)
  /-- It fails. -/
  | fail (ways : Ways)
  /-- The end of the pattern is reached. -/
  | found

/-- The ways with one more. -/
def Ways.push (w : Way) (ways : Ways) : Ways := ⟨w :: ways.list, ways.count + 1⟩

/-- The ways up to a number of them. -/
def Ways.cut (ways : Ways) (count : Nat) : Ways :=
  if count < ways.count then ⟨ways.list.drop (ways.count - count), count⟩ else ways

/-- The ways before the last one that goes on at an address. -/
def Ways.before (ways : Ways) (address : Nat) : Ways :=
  let dropped := ways.list.takeWhile (·.address != address)
  ⟨ways.list.drop (dropped.length + 1), ways.count - dropped.length - 1⟩

/-- A way at the next instruction. -/
def Way.next (w : Way) : Way := { w with address := w.address + 1 }

/-- A way at an address. -/
def Way.goTo (w : Way) (address : Nat) : Way := { w with address := address }

/-- A way that has taken so many characters. -/
def Way.took (w : Way) (n : Nat) : Way := { w.next with place := w.place + n }

/-- A way with a value in a slot. -/
def Way.put (w : Way) (slot value : Nat) : Way :=
  { w with slots := w.slots.setIfInBounds slot (some value) }

/-- What a slot holds. -/
def Way.slot? (w : Way) (slot : Nat) : Option Nat := (w.slots[slot]?).join

/-- Whether characters stand at a place of a text. -/
def standsAt (text : Array Char) : List Char → Nat → Bool
  | [], _ => true
  | c :: cs, i => text[i]? == some c && standsAt text cs (i + 1)

/-- The slots with those of the groups that an automaton has found, from a slot on. -/
def keepGroups (found : Slots) (slot : Nat) : Nat → Slots → Slots
  | 0, slots => slots
  | n + 1, slots =>
    keepGroups found (slot + 1) n (slots.setIfInBounds slot (found[slot]?).join)

/-- A repetition that has begun so often: once more or not, whichever is preferred first. -/
def repeatWay (w : Way) (ways : Ways) (least behind counter n : Nat) (greedy : Bool)
    (mark : Way → Way) : Outcome :=
  let more := (w.put counter (n + 1)).next
  if n < least then .goOn more ways
  else
    let more := mark more
    if greedy then .goOn more (ways.push (more.goTo behind))
    else .goOn (more.goTo behind) (ways.push more)

/-- Goes on if a test is passed. -/
def goOnIf (passed : Bool) (w : Way) (ways : Ways) : Outcome :=
  if passed then .goOn w ways else .fail ways

/-- What becomes of a way by its next instruction. -/
def step (m : Machine) (text : Array Char) (w : Way) (ways : Ways) : Outcome :=
  match m.code[w.address]? with
  | none | some .accept => .found
  | some .any => goOnIf (w.place < text.size) (w.took 1) ways
  | some .anyInLine =>
    goOnIf (text[w.place]?.any (· != '\n')) (w.took 1) ways
  | some (.text cs) => goOnIf (standsAt text cs w.place) (w.took cs.length) ways
  | some (.piece a first count) =>
    match a.find text w.place (if count == 0 then 0 else 2 * (first + count)) with
    | some (i, found) =>
      .goOn { w.next with
        place := i
        slots := keepGroups found (2 * first) (2 * count) w.slots } ways
    | none => .fail ways
  | some (.check p) => goOnIf (p.holds text w.place) w.next ways
  | some .checkStart => goOnIf (w.place == 0) w.next ways
  | some (.fork x y) => .goOn (w.goTo x) (ways.push (w.goTo y))
  | some (.jump x) => .goOn (w.goTo x) ways
  | some (.save slot) => .goOn (w.next.put slot w.place) ways
  | some (.clear slot) => .goOn (w.next.put slot 0) ways
  | some (.restore slot) => .goOn { w.next with place := (w.slot? slot).getD 0 } ways
  | some (.again least most behind counter greedy) =>
    let n := (w.slot? counter).getD 0
    if most == some n then .goOn (w.goTo behind) ways
    else repeatWay w ways least behind counter n greedy id
  | some (.againNonempty least behind counter begun greedy) =>
    let n := (w.slot? counter).getD 0
    -- A repetition that took no character would go on for ever.
    if 0 < n && w.slot? begun == some w.place then .fail ways
    else repeatWay w ways least behind counter n greedy fun w => w.put begun w.place
  | some (.back n) =>
    if n ≤ w.place then .goOn { w.next with place := w.place - n } ways else .fail ways
  -- What must not match has matched: the way that leads past it is given up too.
  | some .forbid => .fail (ways.before (w.address + 1))
  | some (.reference slot) =>
    match w.slot? slot, w.slot? (slot + 1) with
    | some i, some j =>
      let cs := (text.extract i j).toList
      goOnIf (standsAt text cs w.place) (w.took cs.length) ways
    | _, _ => .fail ways
  | some (.kept slot) => goOnIf (w.slot? slot).isSome w.next ways
  | some .beginAtomic => .goOn { w.next with atomic := ways.count :: w.atomic } ways
  | some .endAtomic =>
    .goOn { w.next with atomic := w.atomic.drop 1 } (ways.cut (w.atomic.head?.getD 0))

/-- Follows a way, and those left to try, for so many steps; the machine may be taken back so often
still. -/
def run (m : Machine) (text : Array Char) : Nat → Nat → Way → Ways → Except Limit Bool
  | 0, _, _, _ => .error .backtracking
  | fuel + 1, left, w, ways =>
    match m.step text w ways with
    | .found => .ok true
    | .goOn w ways => if limit < ways.count then .error .ways else run m text fuel left w ways
    | .fail ways =>
      match ways.list, left with
      | [], _ => .ok false
      | _ :: _, 0 => .error .backtracking
      | w :: rest, left + 1 => run m text fuel left w ⟨rest, ways.count - 1⟩

/-- More steps than any run takes before it is taken back too often. -/
def stepLimit : Nat := 1000000000000

/-- Whether some piece of a text matches, unless the machine gives up. -/
def matchesIn (m : Machine) (text : Array Char) : Except Limit Bool :=
  m.run text stepLimit limit ⟨0, 0, Array.replicate m.slotCount none, []⟩ ⟨[], 0⟩

end Machine

end DocCheck.Pattern
