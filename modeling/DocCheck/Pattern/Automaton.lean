import DocCheck.Pattern.Regular

/-!
# Automata

A regular pattern as a list of instructions. All threads of a run are at the same place in the text;
they are kept in the order in which the pattern prefers them, and no two are at the same
instruction, so that a run takes no longer than the product of both lengths.

* `Automaton`, `Automaton.ofRegular` — the instructions of a pattern;
* `Automaton.find` — the piece that the pattern prefers at a place, with its groups;
* `Automaton.matchesIn` — whether some piece of a text matches.
-/

namespace DocCheck.Pattern

/-- An instruction. Ways to other instructions are given as distances. -/
inductive Instruction where
  /-- Takes one character of a set. -/
  | take (set : CharSet)
  /-- Goes on at such a place only. -/
  | check (p : Place)
  /-- Keeps the place in a slot. -/
  | save (slot : Nat)
  /-- Goes on in two ways, the first one preferred. -/
  | fork (first second : Int)
  /-- Goes on elsewhere. -/
  | jump (distance : Int)
  /-- The end of the pattern. -/
  | accept
  deriving DecidableEq

/-- The places that a run has kept. -/
abbrev Slots := Array (Option Nat)

/-- The instructions of a pattern. -/
structure Automaton where
  /-- The instructions; the first one is where a run begins. -/
  code : Array Instruction
  deriving DecidableEq

namespace Automaton

/-- A fork that prefers to go on, or one that prefers to leave. -/
def forkTo (greedy : Bool) (inside outside : Int) : Instruction :=
  if greedy then .fork inside outside else .fork outside inside

/-- Optional pieces one inside the other: each but the last has all that follow in it. -/
def optional (greedy : Bool) (part : List Instruction) : Nat → List Instruction
  | 0 => []
  | n + 1 =>
    forkTo greedy 1 ((n + 1) * (part.length + 1)) :: (part ++ optional greedy part n)

/-- Any number of pieces. A piece that may be empty is looked for before the fork that leaves. -/
def star (greedy mayBeEmpty : Bool) (part : List Instruction) : List Instruction :=
  let n : Int := part.length
  if mayBeEmpty then
    forkTo greedy 1 (n + 2) :: (part ++ [forkTo greedy (-n) 1])
  else forkTo greedy 1 (n + 2) :: (part ++ [.jump (-n - 1)])

def emit : Regular → List Instruction
  | .empty => []
  | .one s => [.take s]
  | .place p => [.check p]
  | .group i r => .save (2 * i) :: (emit r ++ [.save (2 * i + 1)])
  | .repeated r least most greedy =>
    let part := emit r
    let required := (List.replicate least part).flatten
    match most with
    | some m => required ++ optional greedy part (m - least)
    | none =>
      if least == 0 then star greedy (r.leastLength == 0) part
      else required ++ [forkTo greedy (-part.length) 1]
  | .seq a b => emit a ++ emit b
  | .alt a b =>
    let first := emit a
    let second := emit b
    .fork 1 (first.length + 2) :: (first ++ Instruction.jump (second.length + 1) :: second)

def ofRegular (r : Regular) : Automaton := ⟨(emit r ++ [Instruction.accept]).toArray⟩

/-! ### Runs -/

/-- The threads at one place, in order of preference. -/
structure Threads where
  /-- For each instruction the last place, plus one, at which a thread came to it. -/
  seen : Array Nat
  /-- The instruction and the slots of each thread that takes a character or accepts. -/
  waiting : Array (Nat × Slots)

def goTo (address : Nat) (distance : Int) : Nat := (address + distance).toNat

/-- Brings threads as far as they come at a place without taking a character, the first one first.
Every instruction is passed once at most, which bounds the number of steps. -/
def advance (a : Automaton) (text : Array Char) (i : Nat) :
    Nat → List (Nat × Slots) → Threads → Threads
  | 0, _, threads => threads
  | _, [], threads => threads
  | fuel + 1, (pc, slots) :: rest, threads =>
    -- A thread that is preferred has been here; this one can find nothing better.
    if threads.seen[pc]?.getD 0 == i + 1 then advance a text i fuel rest threads
    else
      let ⟨seen, waiting⟩ := threads
      let threads : Threads := ⟨seen.setIfInBounds pc (i + 1), waiting⟩
      match a.code[pc]? with
      | some (.check p) =>
        if p.holds text i then advance a text i fuel ((pc + 1, slots) :: rest) threads
        else advance a text i fuel rest threads
      | some (.save slot) =>
        advance a text i fuel ((pc + 1, slots.setIfInBounds slot (some i)) :: rest) threads
      | some (.fork x y) =>
        advance a text i fuel ((goTo pc x, slots) :: (goTo pc y, slots) :: rest) threads
      | some (.jump x) => advance a text i fuel ((goTo pc x, slots) :: rest) threads
      | some _ =>
        let ⟨seen, waiting⟩ := threads
        advance a text i fuel rest ⟨seen, waiting.push (pc, slots)⟩
      | none => advance a text i fuel rest threads

/-- Adds a thread at an instruction, behind all others. -/
def Threads.add (a : Automaton) (text : Array Char) (i pc : Nat) (slots : Slots)
    (threads : Threads) : Threads :=
  advance a text i (2 * a.code.size + 2) [(pc, slots)] threads

/-- Lets threads take the character at a place. The first one that accepts ends the preference: what
it found is kept, and the threads behind it are given up. -/
def takeChar (a : Automaton) (text : Array Char) (i : Nat) (best : Option (Nat × Slots))
    (next : Threads) : List (Nat × Slots) → Option (Nat × Slots) × Threads
  | [] => (best, next)
  | (pc, slots) :: rest =>
    match a.code[pc]?, text[i]? with
    | some .accept, _ => (some (i, slots), next)
    | some (.take s), some c =>
      if s.mem c then takeChar a text i best (next.add a text (i + 1) (pc + 1) slots) rest
      else takeChar a text i best next rest
    | _, _ => takeChar a text i best next rest

/-- Goes on with threads to the end of the text, or until none is left. -/
def finish (a : Automaton) (text : Array Char) :
    Nat → Nat → Option (Nat × Slots) → Threads → Option (Nat × Slots)
  | 0, _, best, _ => best
  | fuel + 1, i, best, ⟨seen, waiting⟩ =>
    if waiting.isEmpty then best
    else
      let (best, next) := takeChar a text i best ⟨seen, #[]⟩ waiting.toList
      finish a text fuel (i + 1) best next

/-- The end of the piece that the pattern prefers among those that start at a place, and the slots
of its groups. -/
def find (a : Automaton) (text : Array Char) (start slotCount : Nat) : Option (Nat × Slots) :=
  let none : Threads := ⟨Array.replicate a.code.size 0, #[]⟩
  finish a text (text.size + 1 - start) start Option.none
    (none.add a text start 0 (Array.replicate slotCount Option.none))

/-- Whether one of some threads has come to the end of the pattern. -/
def accepts (a : Automaton) (threads : Threads) : Bool :=
  threads.waiting.any fun t => a.code[t.1]? == some Instruction.accept

/-- Whether a piece that starts at a place or later matches, or one that is under way. -/
def matchesFrom (a : Automaton) (text : Array Char) : Nat → Nat → Threads → Bool
  | 0, _, _ => false
  | fuel + 1, i, threads =>
    let threads := threads.add a text i 0 #[]
    if a.accepts threads then true
    else
      let ⟨seen, waiting⟩ := threads
      matchesFrom a text fuel (i + 1) (takeChar a text i Option.none ⟨seen, #[]⟩ waiting.toList).2

/-- Whether some piece of a text matches. -/
def matchesIn (a : Automaton) (text : Array Char) : Bool :=
  matchesFrom a text (text.size + 1) 0 ⟨Array.replicate a.code.size 0, #[]⟩

end Automaton

end DocCheck.Pattern
