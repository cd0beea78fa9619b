import DocCheck.Proofs.Loading
import Mathlib.Data.Set.Card

/-!
# Sets of validators through their operations

A set of validators starts out empty. A schema may be compiled and its validator put in, and the
validators of some kinds may be loaded and take the place of the whole set; what fails leaves the
set as it is. After any number of such operations, in any order, the set holds for each kind what
the last successful operation that covers this kind has brought for it: an addition covers the kind
of its schema, a load covers all kinds and brings those that it was asked for.

* `Operation` — the operations, with what they bring (`Operation.Brings`), which kinds they cover
  (`Operation.Covers`) and when they succeed (`Operation.Succeeds`), all said without the set;
* `get?_apply_of_covers`, `get?_apply_of_not_covers`, `apply_of_fails` — one operation;
* `get?_after_iff` — any number of operations;
* `after_operations` — what holds of the set at every point.
-/

namespace DocCheck

theorem Validator.kind_of_compile {kind : Kind} {schema : Json} {source : String} {dir : SchemaDir}
    {v : Validator} (h : (Validator.compile kind schema source dir).result = .ok v) :
    v.kind = kind := by
  unfold compile at h
  split at h
  · cases h
    rfl
  · cases h

namespace ValidatorSet

/-! ### Operations -/

/-- Operations on a set of validators. -/
inductive Operation where
  /-- Compiles a schema, and puts its validator into the set. -/
  | add (kind : Kind) (schema : Json) (source : String) (dir : SchemaDir)
  /-- Loads the validators of some kinds; they are the new set. -/
  | load (files : Files) (config : Config) (strictness : Strictness) (kinds : List Kind)

/-- The set behind an operation. A failure leaves the set as it is. -/
def apply (s : ValidatorSet) : Operation → ValidatorSet
  | .add kind schema source dir =>
    match (Validator.compile kind schema source dir).result with
    | .ok v => s.insert v
    | .error _ => s
  | .load files config strictness kinds =>
    match (ValidatorSet.load files config strictness kinds).result with
    | .ok loaded => loaded
    | .error _ => s

/-- The set behind some operations, from the empty one on. -/
def after (ops : List Operation) : ValidatorSet := ops.foldl apply empty

namespace Operation

/-- An addition succeeds if its schema compiles, a load if all the validators can be loaded that it
is asked for. -/
def Succeeds : Operation → Prop
  | add kind schema source dir => ∃ v, (Validator.compile kind schema source dir).result = .ok v
  | load files config st kinds =>
    ∀ k ∈ kinds, ∃ v, (Validator.load files config st k).result = .ok v

/-- Whether a kind has only what the operation brings for it once the operation has succeeded. -/
def Covers : Operation → Kind → Prop
  | add kind _ _ _, k => k = kind
  | load _ _ _ _, _ => True

/-- The validator that an operation brings for a kind. -/
def Brings : Operation → Kind → Validator → Prop
  | add kind schema source dir, k, v =>
    k = kind ∧ (Validator.compile kind schema source dir).result = .ok v
  | load files config st kinds, k, v =>
    k ∈ kinds ∧ (Validator.load files config st k).result = .ok v

variable {op : Operation} {k : Kind} {v : Validator}

theorem Brings.kind_eq (h : op.Brings k v) : v.kind = k := by
  cases op with
  | add kind schema source dir =>
    obtain ⟨rfl, hv⟩ := h
    exact Validator.kind_of_compile hv
  | load files config st kinds => exact Validator.kind_of_load h.2

theorem Brings.covers (h : op.Brings k v) : op.Covers k := by
  cases op with
  | add kind schema source dir => exact h.1
  | load files config st kinds => trivial

end Operation

variable {s : ValidatorSet} {op : Operation} {ops : List Operation} {k : Kind} {v : Validator}

/-! ### One operation -/

/-- A set of validators can be loaded exactly if each of them can. -/
theorem exists_load_iff {files : Files} {config : Config} {st : Strictness} {kinds : List Kind} :
    (∃ loaded, (ValidatorSet.load files config st kinds).result = .ok loaded) ↔
      (Operation.load files config st kinds).Succeeds := by
  constructor
  · rintro ⟨loaded, hloaded⟩ k hk
    obtain ⟨v, hv, _⟩ := get?_of_load hloaded hk
    exact ⟨v, hv⟩
  · intro h
    cases hloaded : (ValidatorSet.load files config st kinds).result with
    | ok loaded => exact ⟨loaded, rfl⟩
    | error e =>
      obtain ⟨k, hk, he, _⟩ := load_eq_error_iff.mp hloaded
      obtain ⟨v, hv⟩ := h k hk
      rw [he] at hv
      cases hv

/-- **Failures** leave the set as it is. -/
theorem apply_of_fails (h : ¬ op.Succeeds) : s.apply op = s := by
  cases op with
  | add kind schema source dir =>
    rw [apply]
    cases hcompile : (Validator.compile kind schema source dir).result with
    | ok v => exact absurd ⟨v, hcompile⟩ h
    | error e => rfl
  | load files config st kinds =>
    rw [apply]
    cases hloaded : (ValidatorSet.load files config st kinds).result with
    | ok loaded => exact absurd (exists_load_iff.mp ⟨loaded, hloaded⟩) h
    | error e => rfl

/-- **Covered kinds.** Behind an operation that succeeds, a kind that it covers has what the
operation brings, and has nothing if it brings nothing. -/
theorem get?_apply_of_covers (hop : op.Succeeds) (hk : op.Covers k) :
    (s.apply op).get? k = some v ↔ op.Brings k v := by
  cases op with
  | add kind schema source dir =>
    obtain ⟨w, hw⟩ := hop
    have happly : s.apply (.add kind schema source dir) = s.insert w := by rw [apply, hw]
    have hplace : (s.insert w).get? k = some w := by
      rw [show k = w.kind from hk.trans (Validator.kind_of_compile hw).symm, get?_insert_self]
    rw [happly, hplace, Option.some.injEq]
    constructor
    · rintro rfl
      exact ⟨hk, hw⟩
    · rintro ⟨_, hv⟩
      rw [hw] at hv
      exact Except.ok.inj hv
  | load files config st kinds =>
    obtain ⟨loaded, hloaded⟩ := exists_load_iff.mpr hop
    have happly : s.apply (.load files config st kinds) = loaded := by rw [apply, hloaded]
    rw [happly]
    -- A kind that was not asked for is removed by the load, and nothing is brought for it.
    by_cases hmem : k ∈ kinds
    · obtain ⟨w, hw, hget⟩ := get?_of_load hloaded hmem
      rw [hget, Option.some.injEq]
      constructor
      · rintro rfl
        exact ⟨hmem, hw⟩
      · rintro ⟨_, hv⟩
        rw [hw] at hv
        exact Except.ok.inj hv
    · rw [get?_of_load_of_not_mem hloaded hmem]
      exact ⟨nofun, fun hv => absurd hv.1 hmem⟩

/-- **Other kinds** keep what they have. -/
theorem get?_apply_of_not_covers (hk : ¬ op.Covers k) : (s.apply op).get? k = s.get? k := by
  cases op with
  | add kind schema source dir =>
    rw [apply]
    cases hcompile : (Validator.compile kind schema source dir).result with
    | error e => rfl
    | ok w =>
      have hne : k ≠ w.kind := fun h => hk (h.trans (Validator.kind_of_compile hcompile))
      exact get?_insert_of_ne s w hne
  | load files config st kinds => exact absurd trivial hk

/-! ### Any number of operations -/

theorem after_concat (ops : List Operation) (op : Operation) :
    after (ops ++ [op]) = (after ops).apply op := by
  rw [after, List.foldl_append, List.foldl_cons, List.foldl_nil, after]

/-- An operation brings a validator for a kind, and no successful one behind it covers the kind. -/
def LastBrings (ops : List Operation) (k : Kind) (v : Validator) : Prop :=
  ∃ before op later, ops = before ++ op :: later ∧ op.Succeeds ∧ op.Brings k v ∧
    ∀ op' ∈ later, op'.Succeeds → ¬ op'.Covers k

/-- In a list with one element more at its end, an element is this one or stands before it. -/
theorem concat_eq_append_cons_iff {before later : List Operation} {op₁ : Operation} :
    ops ++ [op] = before ++ op₁ :: later ↔
      (ops = before ∧ op = op₁ ∧ later = []) ∨
        ∃ init, later = init ++ [op] ∧ ops = before ++ op₁ :: init := by
  constructor
  · intro h
    -- the last element of both sides is `op`, be it the element in question or one behind it
    rcases List.eq_nil_or_concat' later with rfl | ⟨init, last, rfl⟩
    · obtain ⟨hops, hlast⟩ := List.append_inj' h rfl
      exact .inl ⟨hops, (List.cons.inj hlast).1, rfl⟩
    · rw [← List.cons_append, ← List.append_assoc] at h
      obtain ⟨hops, hlast⟩ := List.append_inj' h rfl
      obtain rfl : op = last := (List.cons.inj hlast).1
      exact .inr ⟨init, rfl, hops⟩
  · rintro (⟨rfl, rfl, rfl⟩ | ⟨init, rfl, rfl⟩)
    · rfl
    · rw [List.append_assoc, List.cons_append]

/-- **One operation more.** It is the last one that counts for a kind, or else it leaves the kind to
the operations before. -/
theorem lastBrings_concat :
    LastBrings (ops ++ [op]) k v ↔
      (op.Succeeds ∧ op.Brings k v) ∨ ((op.Succeeds → ¬ op.Covers k) ∧ LastBrings ops k v) := by
  constructor
  · rintro ⟨before, op₁, later, hops, hsucceeds, hbrings, hlater⟩
    rcases concat_eq_append_cons_iff.mp hops with ⟨_, rfl, _⟩ | ⟨init, rfl, hops'⟩
    · exact .inl ⟨hsucceeds, hbrings⟩
    · refine .inr ⟨hlater op (List.mem_append_right _ List.mem_cons_self), ?_⟩
      exact ⟨before, op₁, init, hops', hsucceeds, hbrings,
        fun op' hop' => hlater op' (List.mem_append_left _ hop')⟩
  · rintro (⟨hsucceeds, hbrings⟩ | ⟨hop, before, op₁, later, hops, hsucceeds, hbrings, hlater⟩)
    · exact ⟨ops, op, [], rfl, hsucceeds, hbrings, nofun⟩
    · refine ⟨before, op₁, later ++ [op], concat_eq_append_cons_iff.mpr (.inr ⟨later, rfl, hops⟩),
        hsucceeds, hbrings, fun op' hop' => ?_⟩
      rcases List.mem_append.mp hop' with hop' | hop'
      · exact hlater op' hop'
      · rw [List.mem_singleton.mp hop']
        exact hop

/-- **The last one counts.** Behind any operations, the validator of a kind is the one that the last
successful operation that covers the kind has brought for it. -/
theorem get?_after_iff : (after ops).get? k = some v ↔ LastBrings ops k v := by
  -- The operations grow at their end, so each step is one operation on the set behind the others.
  induction ops using List.reverseRecOn with
  | nil =>
    have hempty : (after []).get? k = none := get?_empty k
    rw [hempty]
    refine ⟨nofun, ?_⟩
    rintro ⟨before, op, later, hops, _⟩
    simp at hops
  | append_singleton ops op ih =>
    rw [after_concat, lastBrings_concat]
    by_cases hop : op.Succeeds
    · by_cases hk : op.Covers k
      · rw [get?_apply_of_covers hop hk, or_iff_left fun h => h.1 hop hk, and_iff_right hop]
      · -- What it brings it would cover.
        rw [get?_apply_of_not_covers hk, ih, or_iff_right fun h => hk h.2.covers,
          and_iff_right fun _ => hk]
    · rw [apply_of_fails hop, ih, or_iff_right fun h => hop h.1,
        and_iff_right fun h => absurd h hop]

theorem contains_iff : s.contains k ↔ ∃ v, s.get? k = some v := Option.isSome_iff_exists

/-- A set has as many validators as there are kinds in it. -/
theorem size_eq_ncard (s : ValidatorSet) : s.size = {k | s.contains k}.ncard := by
  -- The kinds of a set are listed without repetition, so their number is that of the set.
  have hnodup : s.kinds.Nodup := List.Nodup.filter _ (by decide)
  have hset : {k | s.contains k} = (s.kinds.toFinset : Set Kind) := by
    ext k
    have hall : k ∈ Kind.all := by cases k <;> decide
    rw [Set.mem_ofPred_eq, Finset.mem_coe, List.mem_toFinset, kinds, List.mem_filter]
    exact ⟨fun h => ⟨hall, h⟩, fun h => h.2⟩
  rw [hset, Set.ncard_coe_finset, List.toFinset_card_of_nodup hnodup, size]

/-- **A set of validators at every point.** Behind any operations, each validator in the set is
under its own kind; a kind is contained exactly if it has a validator, and the size counts such
kinds. The validator of a kind is the one that was stored for it last, where a successful load
removes all that it does not store itself. An operation that fails leaves everything as it was, an
addition leaves all other kinds alone, and behind a successful load exactly the kinds are there that
it was asked for, each with the validator that this configuration and this strictness give. -/
theorem after_operations (ops : List Operation) :
    (∀ k v, (after ops).get? k = some v → v.kind = k) ∧
      (∀ k, (after ops).contains k ↔ ∃ v, (after ops).get? k = some v) ∧
      (after ops).size = {k | (after ops).contains k}.ncard ∧
      ((after ops).isEmpty ↔ (after ops).size = 0) ∧
      (∀ k v, (after ops).get? k = some v ↔ LastBrings ops k v) ∧
      (∀ op : Operation, ¬ op.Succeeds → after (ops ++ [op]) = after ops) ∧
      (∀ kind schema source dir k, k ≠ kind →
        (after (ops ++ [.add kind schema source dir])).get? k = (after ops).get? k) ∧
      ∀ files config st kinds, (Operation.load files config st kinds).Succeeds →
        ∀ k, ((after (ops ++ [.load files config st kinds])).contains k ↔ k ∈ kinds) ∧
          ∀ v, (after (ops ++ [.load files config st kinds])).get? k = some v ↔
            k ∈ kinds ∧ (Validator.load files config st k).result = .ok v := by
  refine ⟨?_, fun k => contains_iff, size_eq_ncard _, beq_iff_eq, fun k v => get?_after_iff,
    ?_, ?_, ?_⟩
  · intro k v h
    obtain ⟨_, op, _, _, _, hbrings, _⟩ := get?_after_iff.mp h
    exact hbrings.kind_eq
  · intro op hop
    rw [after_concat, apply_of_fails hop]
  · intro kind schema source dir k hk
    have hkeeps : ¬ (Operation.add kind schema source dir).Covers k := hk
    rw [after_concat, get?_apply_of_not_covers hkeeps]
  · intro files config st kinds hload k
    have hget : ∀ v, (after (ops ++ [.load files config st kinds])).get? k = some v ↔
        k ∈ kinds ∧ (Validator.load files config st k).result = .ok v := by
      intro v
      rw [after_concat]
      exact get?_apply_of_covers hload trivial
    refine ⟨?_, hget⟩
    rw [contains_iff]
    constructor
    · rintro ⟨v, hv⟩
      exact ((hget v).mp hv).1
    · intro hk
      obtain ⟨v, hv⟩ := hload k hk
      exact ⟨v, (hget v).mpr ⟨hk, hv⟩⟩

end ValidatorSet

end DocCheck
