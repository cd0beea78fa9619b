import DocCheck.Proofs.Json.Sorted
import Mathlib.Data.List.Dedup

/-!
# Objects made of members

An object is made by putting members into it one by one, where a member replaces an earlier one with
the same key. What it holds in the end are the last members of each key, so nothing is replaced
exactly if no key occurs twice.

* `built` — the members that are put into others;
* `lookup_built` — the last member of a key stays;
* `length_built_eq_iff` — all members stay exactly if their keys differ.
-/

namespace DocCheck.Json

variable {key k : String} {value v : Json} {ms acc : List (String × Json)}

/-- The members `acc` once those of `ms` are put in, one by one. -/
def built (acc ms : List (String × Json)) : List (String × Json) :=
  ms.foldl (fun acc m => insert m.1 m.2 acc) acc

theorem ofMembers_eq (ms : List (String × Json)) : ofMembers ms = .obj (built [] ms) := rfl

theorem built_cons (m : String × Json) :
    built acc (m :: ms) = built (insert m.1 m.2 acc) ms := rfl

/-! ### Looking up -/

theorem lookup_append (ns : List (String × Json)) :
    lookup key (ms ++ ns) = (lookup key ms).or (lookup key ns) := by
  induction ms with
  | nil => rfl
  | cons m rest ih =>
    rw [List.cons_append, lookup_cons, lookup_cons, ih]
    split <;> rfl

/-- **The last one stays.** What is found under a key is the last member with that key. -/
theorem lookup_built : lookup key (built acc ms) = (lookup key ms.reverse).or (lookup key acc) := by
  induction ms generalizing acc with
  | nil => rfl
  | cons m rest ih =>
    rw [built_cons, ih, List.reverse_cons, lookup_append, Option.or_assoc]
    congr 1
    rw [lookup_cons]
    by_cases hk : m.1 = key
    · rw [if_pos hk, ← hk, lookup_insert_self]
      rfl
    · rw [if_neg hk, lookup_insert_of_ne (Ne.symm hk)]
      rfl

/-! ### Counting -/

theorem mem_keys_iff : key ∈ ms.map Prod.fst ↔ lookup key ms ≠ none := by
  rw [ne_eq, lookup_eq_none_iff, List.mem_map]
  push Not
  rfl

theorem mem_keys_built : key ∈ (built [] ms).map Prod.fst ↔ key ∈ ms.map Prod.fst := by
  rw [mem_keys_iff, lookup_built, lookup_nil, Option.or_none, ← mem_keys_iff, List.map_reverse,
    List.mem_reverse]

theorem pairwise_built (h : acc.Pairwise fun a b => a.1 < b.1) :
    (built acc ms).Pairwise fun a b => a.1 < b.1 := by
  induction ms generalizing acc with
  | nil => exact h
  | cons m rest ih => exact ih (pairwise_insert h)

theorem nodup_keys_built : ((built [] ms).map Prod.fst).Nodup := by
  refine List.Pairwise.map _ (fun a b hab => ?_) (pairwise_built List.Pairwise.nil)
  exact fun he => String.lt_irrefl _ (he ▸ hab)

/-- **All stay** exactly if no key occurs twice. -/
theorem length_built_eq_iff : (built [] ms).length = ms.length ↔ (ms.map Prod.fst).Nodup := by
  -- The keys of the object are those of the members, each once.
  have hkeys : ((built [] ms).map Prod.fst).Perm (ms.map Prod.fst).dedup := by
    rw [List.perm_ext_iff_of_nodup nodup_keys_built (List.nodup_dedup _)]
    exact fun key => mem_keys_built.trans List.mem_dedup.symm
  have hlength : (built [] ms).length = (ms.map Prod.fst).dedup.length := by
    rw [← hkeys.length_eq, List.length_map]
  rw [hlength, ← List.length_map Prod.fst]
  constructor
  · intro h
    rw [← (List.dedup_sublist _).eq_of_length h]
    exact List.nodup_dedup _
  · intro h
    rw [h.dedup]

theorem lookup_built_of_mem (hn : (ms.map Prod.fst).Nodup) (h : (key, value) ∈ ms) :
    lookup key (built [] ms) = some value := by
  have hreverse : (ms.reverse.map Prod.fst).Nodup := by
    rw [List.map_reverse]
    exact List.nodup_reverse.mpr hn
  rw [lookup_built, lookup_nil, Option.or_none, lookup_eq_some_iff_mem hreverse]
  exact List.mem_reverse.mpr h

end DocCheck.Json
