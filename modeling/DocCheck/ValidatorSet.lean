import DocCheck.Validator

/-!
# Sets of validators

At most one validator per kind. A run loads the validators of all kinds that it needs before it
reads any document; if one of them cannot be loaded, the first kind that fails says why.

* `ValidatorSet.get?`, `ValidatorSet.insert` — the validator of a kind;
* `ValidatorSet.load` — the validators of some kinds.
-/

namespace DocCheck

/-- At most one validator per kind. -/
structure ValidatorSet where
  profile : Option Validator
  legacy : Option Validator

namespace ValidatorSet

def empty : ValidatorSet := ⟨none, none⟩

def get? (s : ValidatorSet) : Kind → Option Validator
  | .profile => s.profile
  | .legacy => s.legacy

/-- Adds a validator, replacing the one of its kind. -/
def insert (s : ValidatorSet) (v : Validator) : ValidatorSet :=
  match v.kind with
  | .profile => { s with profile := some v }
  | .legacy => { s with legacy := some v }

/-- Whether there is a validator of a kind. -/
def contains (s : ValidatorSet) (k : Kind) : Bool := (s.get? k).isSome

/-- The kinds that have a validator, in the order of kinds. -/
def kinds (s : ValidatorSet) : List Kind := Kind.all.filter s.contains

def size (s : ValidatorSet) : Nat := s.kinds.length

def isEmpty (s : ValidatorSet) : Bool := s.size == 0

@[simp] theorem get?_empty (k : Kind) : empty.get? k = none := by
  cases k <;> rfl

/-- A validator that was added is the one of its kind. -/
@[simp] theorem get?_insert_self (s : ValidatorSet) (v : Validator) :
    (s.insert v).get? v.kind = some v := by
  unfold insert
  split <;> simp_all [get?]

/-- Adding a validator leaves the other kind alone. -/
theorem get?_insert_of_ne (s : ValidatorSet) (v : Validator) {k : Kind} (h : k ≠ v.kind) :
    (s.insert v).get? k = s.get? k := by
  unfold insert
  split <;> cases k <;> simp_all [get?]

/-- The set of all validators in a list, or the first failure in it. -/
def ofResults : List (Except SchemaError Validator) → Except SchemaError ValidatorSet
  | [] => .ok empty
  | .error e :: _ => .error e
  -- Later kinds are added first; as each kind occurs once, nothing is replaced.
  | .ok v :: rest => (ofResults rest).map fun s => s.insert v

/-- The kinds of a list, each once and in the order of kinds. -/
def distinctKinds (kinds : List Kind) : List Kind := Kind.all.filter kinds.contains

/-- The validators of some kinds. All of them are loaded before the first failure is looked for. -/
def load (files : Files) (config : Config) (strictness : Strictness) (kinds : List Kind) :
    Traced (Except SchemaError ValidatorSet) :=
  let loads := Traced.all ((distinctKinds kinds).map (Validator.load files config strictness))
  ⟨loads.events, ofResults loads.result⟩

end ValidatorSet

end DocCheck
