import DocCheck.Json.Basic
import Mathlib.Data.List.Perm.Basic

/-!
# Members of objects

What looking up and inserting members of an object do to one another, and two ways to go through a
JSON value from the outside in.

* `lookup_insert_self`, `lookup_insert_of_ne` — a member that was inserted, and all others;
* `insert_perm` — a new member is put beside those that were there;
* `lookup_eq_some_iff_mem` — where no key occurs twice, looking up finds every member;
* `SortedKeys.member`, `SortedKeys.item` — the order of keys holds below as well;
* `size_lt_of_mem_members`, `size_lt_of_mem_items` — the parts of a value are smaller than it;
* `induct` — induction from the parts of a value to the value.
-/

namespace DocCheck.Json

/-! ### Looking up -/

variable {key k : String} {value v : Json} {ms : List (String × Json)}

@[simp] theorem lookup_nil : lookup key [] = none := rfl

theorem lookup_cons (m : String × Json) :
    lookup key (m :: ms) = if m.1 = key then some m.2 else lookup key ms := rfl

/-- What is found is a member. -/
theorem mem_of_lookup (h : lookup key ms = some v) : (key, v) ∈ ms := by
  induction ms with
  | nil => simp at h
  | cons m rest ih =>
    obtain ⟨k, w⟩ := m
    rw [lookup_cons] at h
    by_cases hk : k = key
    · rw [if_pos hk, Option.some.injEq] at h
      rw [← hk, ← h]
      exact List.mem_cons_self
    · rw [if_neg hk] at h
      exact List.mem_cons_of_mem _ (ih h)

/-- Nothing is found exactly if no member has the key. -/
theorem lookup_eq_none_iff : lookup key ms = none ↔ ∀ m ∈ ms, m.1 ≠ key := by
  induction ms with
  | nil => simp
  | cons m rest ih =>
    rw [lookup_cons]
    by_cases hk : m.1 = key
    · simp [hk]
    · simp [hk, ih]

/-- Whether nothing is found can be told from the keys. -/
theorem isNone_lookup : (lookup key ms).isNone = !ms.any fun m => m.1 == key := by
  rw [Bool.eq_iff_iff, Option.isNone_iff_eq_none, lookup_eq_none_iff, Bool.not_eq_true',
    List.any_eq_false]
  exact forall₂_congr fun m _ => by rw [beq_iff_eq]

/-- Where no key occurs twice, looking up finds every member. -/
theorem lookup_eq_some_iff_mem (hn : (ms.map Prod.fst).Nodup) :
    lookup key ms = some v ↔ (key, v) ∈ ms := by
  refine ⟨mem_of_lookup, fun hm => ?_⟩
  induction ms with
  | nil => simp at hm
  | cons m rest ih =>
    rw [List.map_cons, List.nodup_cons] at hn
    rw [lookup_cons]
    rcases List.mem_cons.mp hm with rfl | hr
    · exact if_pos rfl
    -- A member further back has another key than the first one.
    · have hk : m.1 ≠ key := by
        rintro rfl
        exact hn.1 (List.mem_map.mpr ⟨_, hr, rfl⟩)
      rw [if_neg hk]
      exact ih hn.2 hr

/-- A change of values that goes by key and value is seen through by looking up. -/
theorem lookup_map (f : String → Json → Json) (ms : List (String × Json)) (key : String) :
    lookup key (ms.map fun m => (m.1, f m.1 m.2)) = (lookup key ms).map (f key) := by
  induction ms with
  | nil => rfl
  | cons m rest ih =>
    rw [List.map_cons, lookup_cons, lookup_cons]
    by_cases hk : m.1 = key
    · simp [hk]
    · simp [hk, ih]

/-! ### Inserting -/

/-- A member that was inserted is found. -/
@[simp] theorem lookup_insert_self : lookup key (insert key value ms) = some value := by
  induction ms with
  | nil => simp [insert, lookup]
  | cons m rest ih =>
    obtain ⟨k, w⟩ := m
    unfold insert
    by_cases hk : k = key
    · rw [if_pos hk, lookup_cons, if_pos rfl]
    · rw [if_neg hk]
      split
      · rw [lookup_cons, if_pos rfl]
      · rw [lookup_cons, if_neg hk, ih]

/-- Inserting leaves the members with other keys alone. -/
theorem lookup_insert_of_ne (h : k ≠ key) : lookup k (insert key value ms) = lookup k ms := by
  induction ms with
  | nil => simp [insert, lookup, h.symm]
  | cons m rest ih =>
    obtain ⟨j, w⟩ := m
    unfold insert
    -- Either the first member is replaced, or the new one goes before it or behind it.
    by_cases hj : j = key
    · rw [if_pos hj, lookup_cons, lookup_cons, if_neg (by simpa using h.symm),
        if_neg (by simpa [hj] using h.symm)]
    · rw [if_neg hj]
      split
      · rw [lookup_cons, if_neg (by simpa using h.symm)]
      · rw [lookup_cons, lookup_cons, ih]

/-- A new member is put beside those that were there. -/
theorem insert_perm (h : lookup key ms = none) : (insert key value ms).Perm ((key, value) :: ms) := by
  induction ms with
  | nil => exact List.Perm.refl _
  | cons m rest ih =>
    obtain ⟨k, w⟩ := m
    rw [lookup_cons] at h
    have hk : k ≠ key := by
      rintro rfl
      simp at h
    rw [if_neg hk] at h
    unfold insert
    rw [if_neg hk]
    split
    · exact List.Perm.refl _
    · exact ((ih h).cons _).trans (List.Perm.swap _ _ _)

/-- A new member that a function makes nothing of does not show. -/
theorem flatMap_insert {α : Type} {f : String × Json → List α} (h : lookup key ms = none)
    (hf : f (key, value) = []) : (insert key value ms).flatMap f = ms.flatMap f := by
  induction ms with
  | nil => simp [insert, hf]
  | cons m rest ih =>
    obtain ⟨k, w⟩ := m
    rw [lookup_cons] at h
    have hk : k ≠ key := by
      rintro rfl
      simp at h
    rw [if_neg hk] at h
    unfold insert
    rw [if_neg hk]
    split
    · rw [List.flatMap_cons, hf, List.nil_append]
    · rw [List.flatMap_cons, List.flatMap_cons, ih h]

/-- A change of the values goes through putting a member in its place. -/
theorem map_insert (f : String → Json → Json) (key : String) (value : Json)
    (ms : List (String × Json)) :
    (insert key value ms).map (fun m => (m.1, f m.1 m.2)) =
      insert key (f key value) (ms.map fun m => (m.1, f m.1 m.2)) := by
  induction ms with
  | nil => rfl
  | cons m rest ih =>
    obtain ⟨k, v⟩ := m
    -- Where the member is put goes by the keys, and these stay.
    rw [List.map_cons, insert, insert]
    by_cases hk : k = key
    · rw [if_pos hk, if_pos hk, List.map_cons]
    rw [if_neg hk, if_neg hk]
    by_cases hlt : key < k
    · rw [if_pos hlt, if_pos hlt, List.map_cons, List.map_cons]
    · rw [if_neg hlt, if_neg hlt, List.map_cons, ih]

/-! ### Order of keys -/

theorem sortedItems_iff {xs : List Json} : SortedItems xs ↔ ∀ x ∈ xs, SortedKeys x := by
  induction xs with
  | nil => simp [SortedItems]
  | cons x rest ih => simp [SortedItems, ih]

theorem sortedMembers_iff : SortedMembers ms ↔ ∀ m ∈ ms, SortedKeys m.2 := by
  induction ms with
  | nil => simp [SortedMembers]
  | cons m rest ih =>
    obtain ⟨k, v⟩ := m
    rw [SortedMembers, SortedMember, ih, List.forall_mem_cons]

mutual

/-- Decides whether a value is in order. -/
def decSortedKeys (j : Json) : Decidable j.SortedKeys :=
  match j with
  | .arr xs => decSortedItems xs
  | .obj ms => @instDecidableAnd _ _ inferInstance (decSortedMembers ms)
  | .null | .bool _ | .num _ | .str _ => .isTrue trivial
  termination_by structural j

/-- Decides whether items are in order. -/
def decSortedItems (xs : List Json) : Decidable (SortedItems xs) :=
  match xs with
  | [] => .isTrue trivial
  | x :: xs => @instDecidableAnd _ _ (decSortedKeys x) (decSortedItems xs)
  termination_by structural xs

/-- Decides whether the values of members are in order. -/
def decSortedMembers (ms : List (String × Json)) : Decidable (SortedMembers ms) :=
  match ms with
  | [] => .isTrue trivial
  | m :: ms => @instDecidableAnd _ _ (decSortedMember m) (decSortedMembers ms)
  termination_by structural ms

/-- Decides whether the value of a member is in order. -/
def decSortedMember (m : String × Json) : Decidable (SortedMember m) :=
  match m with
  | (_, v) => decSortedKeys v
  termination_by structural m

end

instance (j : Json) : Decidable j.SortedKeys := decSortedKeys j

theorem SortedKeys.member (h : SortedKeys (.obj ms)) {m : String × Json} (hm : m ∈ ms) :
    SortedKeys m.2 :=
  sortedMembers_iff.mp h.2 m hm

theorem SortedKeys.item {xs : List Json} (h : SortedKeys (.arr xs)) {x : Json} (hx : x ∈ xs) :
    SortedKeys x :=
  sortedItems_iff.mp h x hx

/-- In an object in order no key occurs twice. -/
theorem SortedKeys.nodup (h : SortedKeys (.obj ms)) : (ms.map Prod.fst).Nodup := by
  refine List.Pairwise.map _ (fun a b hab => ?_) h.1
  intro he
  rw [he] at hab
  exact String.lt_irrefl _ hab

/-! ### Size -/

theorem size_le_sizeItems {xs : List Json} {x : Json} (h : x ∈ xs) : x.size ≤ sizeItems xs := by
  induction xs with
  | nil => simp at h
  | cons y rest ih =>
    rw [sizeItems]
    rcases List.mem_cons.mp h with rfl | hr
    · omega
    · have := ih hr
      omega

theorem size_le_sizeMembers {m : String × Json} (h : m ∈ ms) : m.2.size ≤ sizeMembers ms := by
  induction ms with
  | nil => simp at h
  | cons n rest ih =>
    rw [sizeMembers, sizeMember]
    rcases List.mem_cons.mp h with rfl | hr
    · omega
    · have := ih hr
      omega

theorem size_lt_of_mem_items {xs : List Json} {x : Json} (h : x ∈ xs) :
    x.size < (Json.arr xs).size := by
  have := size_le_sizeItems h
  rw [size]
  omega

theorem size_lt_of_mem_members {m : String × Json} (h : m ∈ ms) :
    m.2.size < (Json.obj ms).size := by
  have := size_le_sizeMembers h
  rw [size]
  omega

/-- **Induction.** What holds of an array if it holds of its items, of an object if it holds of the
values of its members, and of all other values, holds of every value. -/
@[elab_as_elim]
theorem induct {motive : Json → Prop}
    (scalar : ∀ j, j.isArray = false → j.isObject = false → motive j)
    (arr : ∀ xs, (∀ x ∈ xs, motive x) → motive (.arr xs))
    (obj : ∀ ms : List (String × Json), (∀ m ∈ ms, motive m.2) → motive (.obj ms)) (j : Json) :
    motive j := by
  -- By the size of the value: the principle that Lean generates asks for lists of members as well.
  induction hn : j.size using Nat.strongRecOn generalizing j with
  | ind n ih =>
    subst hn
    cases j with
    | arr xs => exact arr xs fun x hx => ih _ (size_lt_of_mem_items hx) x rfl
    | obj ms => exact obj ms fun m hm => ih _ (size_lt_of_mem_members hm) m.2 rfl
    | _ => exact scalar _ rfl rfl

/-! ### Numbers of objects -/

theorem objectsItems_map {f : Json → Json} {xs : List Json}
    (h : ∀ x ∈ xs, (f x).objects = x.objects) : objectsItems (xs.map f) = objectsItems xs := by
  induction xs with
  | nil => rfl
  | cons x rest ih =>
    rw [List.map_cons, objectsItems, objectsItems, h x List.mem_cons_self,
      ih fun y hy => h y (List.mem_cons_of_mem _ hy)]

theorem objectsMembers_map {f : String × Json → Json}
    (h : ∀ m ∈ ms, (f m).objects = m.2.objects) :
    objectsMembers (ms.map fun m => (m.1, f m)) = objectsMembers ms := by
  induction ms with
  | nil => rfl
  | cons m rest ih =>
    obtain ⟨k, v⟩ := m
    have hm : (f (k, v)).objects = objectsMember (k, v) := h (k, v) List.mem_cons_self
    rw [List.map_cons, objectsMembers, objectsMembers, objectsMember, hm,
      ih fun y hy => h y (List.mem_cons_of_mem _ hy)]

/-- Their order does not matter. -/
theorem objectsMembers_perm {ns : List (String × Json)} (h : ms.Perm ns) :
    objectsMembers ms = objectsMembers ns := by
  induction h with
  | nil => rfl
  | cons m _ ih => rw [objectsMembers, objectsMembers, ih]
  | swap a b rest =>
    rw [objectsMembers, objectsMembers, objectsMembers, objectsMembers]
    omega
  | trans _ _ ih ih' => exact ih.trans ih'

end DocCheck.Json
