import DocCheck.Document
import DocCheck.Proofs.Json.OfMembers
import Mathlib.Data.List.Forall2

/-!
# Values that were taken over

An accepted list becomes what its items become, one by one, and an accepted mapping an object of
what its entries become. As members are put into an object in their places, a document is in order
at every depth.

* `Value.toJson_seq`, `Value.toJson_map` — lists and mappings;
* `Value.toJson_sortedKeys` — accepted values are in order;
* `readDocument_sortedKeys` — so are documents.
-/

namespace DocCheck.Yaml.Value

open Json (built lookup)

/-! ### Items and entries -/

/-- Items that are accepted are accepted one by one. -/
theorem forall₂_of_itemsToJson {xs : List Value} {ys : List Json} (h : itemsToJson xs = .ok ys) :
    List.Forall₂ (fun x y => x.toJson = .ok y) xs ys := by
  induction xs generalizing ys with
  | nil =>
    cases h
    exact .nil
  | cons x xs ih =>
    rw [itemsToJson] at h
    cases hx : x.toJson with
    | error e =>
      rw [hx] at h
      cases h
    | ok y =>
      rw [hx] at h
      dsimp only at h
      cases hxs : itemsToJson xs with
      | error e =>
        rw [hxs] at h
        cases h
      | ok ys =>
        rw [hxs] at h
        cases h
        exact .cons hx (ih hxs)

/-- What an accepted entry becomes: the text of its key, and its value. -/
theorem of_entryToJson {e : Value × Value} {m : String × Json} (h : entryToJson e = .ok m) :
    keyText? e.1 = some m.1 ∧ e.2.toJson = .ok m.2 := by
  obtain ⟨k, v⟩ := e
  rw [entryToJson] at h
  cases hk : keyText? k with
  | none =>
    rw [hk] at h
    cases h
  | some text =>
    rw [hk] at h
    dsimp only at h
    cases hv : v.toJson with
    | error r =>
      rw [hv] at h
      cases h
    | ok j =>
      rw [hv] at h
      cases h
      exact ⟨rfl, rfl⟩

/-- Entries that are accepted are accepted one by one. -/
theorem forall₂_of_entriesToJson {es : List (Value × Value)} {ms : List (String × Json)}
    (h : entriesToJson es = .ok ms) :
    List.Forall₂ (fun e m => keyText? e.1 = some m.1 ∧ e.2.toJson = .ok m.2) es ms := by
  induction es generalizing ms with
  | nil =>
    cases h
    exact .nil
  | cons e es ih =>
    rw [entriesToJson] at h
    cases he : entryToJson e with
    | error r =>
      rw [he] at h
      cases h
    | ok m =>
      rw [he] at h
      dsimp only at h
      cases hes : entriesToJson es with
      | error r =>
        rw [hes] at h
        cases h
      | ok ms =>
        rw [hes] at h
        cases h
        -- What is accepted as a whole has had each of its entries accepted in turn.
        exact .cons (of_entryToJson he) (ih hes)

/-- **Lists.** An accepted list becomes the array of what its items become. -/
theorem toJson_seq {xs : List Value} {j : Json} (h : (seq xs).toJson = .ok j) :
    ∃ ys, j = .arr ys ∧ List.Forall₂ (fun x y => x.toJson = .ok y) xs ys := by
  rw [toJson] at h
  cases hys : itemsToJson xs with
  | error e =>
    rw [hys] at h
    cases h
  | ok ys =>
    rw [hys] at h
    cases h
    exact ⟨ys, rfl, forall₂_of_itemsToJson hys⟩

/-- **Mappings.** An accepted mapping becomes an object with the last of the members that its
entries become, for each text. -/
theorem toJson_map {es : List (Value × Value)} {j : Json} (h : (map es).toJson = .ok j) :
    ∃ ms, List.Forall₂ (fun e m => keyText? e.1 = some m.1 ∧ e.2.toJson = .ok m.2) es ms ∧
      j = .obj (built [] ms) ∧ ∀ key, lookup key (built [] ms) = lookup key ms.reverse := by
  rw [toJson] at h
  cases hms : entriesToJson es with
  | error e =>
    rw [hms] at h
    cases h
  | ok ms =>
    rw [hms] at h
    cases h
    refine ⟨ms, forall₂_of_entriesToJson hms, Json.ofMembers_eq ms, fun key => ?_⟩
    rw [Json.lookup_built, Json.lookup_nil, Option.or_none]

/-! ### Order -/

mutual

/-- **Order.** What an accepted value becomes is in order. -/
theorem toJson_sortedKeys : ∀ (v : Value) {j : Json}, v.toJson = .ok j → j.SortedKeys
  | .null, _, h => by
    cases h
    trivial
  | .bool _, _, h => by
    cases h
    trivial
  | .num (.int _), _, h => by
    rw [toJson, numberToJson_int] at h
    cases h
    trivial
  | .num (.float x), _, h => by
    rw [toJson, numberToJson_float] at h
    split at h
    · cases h
      trivial
    · -- a number that is not finite is refused
      cases h
  | .str _, _, h => by
    cases h
    trivial
  | .seq xs, _, h => by
    obtain ⟨ys, rfl, hall⟩ := toJson_seq h
    exact Json.sortedItems_iff.mpr (items_sortedKeys xs hall)
  | .map es, _, h => by
    obtain ⟨ms, hall, rfl, _⟩ := toJson_map h
    exact Json.sortedKeys_ofMembers (entries_sortedKeys es hall)
  | .tagged _ _, _, h => nomatch h
  termination_by structural v => v

theorem items_sortedKeys : ∀ (xs : List Value) {ys : List Json},
    List.Forall₂ (fun x y => x.toJson = .ok y) xs ys → ∀ y ∈ ys, y.SortedKeys
  | [], _, .nil => nofun
  | x :: xs, _, .cons h hall =>
    List.forall_mem_cons.mpr ⟨x.toJson_sortedKeys h, items_sortedKeys xs hall⟩
  termination_by structural xs => xs

theorem entries_sortedKeys : ∀ (es : List (Value × Value)) {ms : List (String × Json)},
    List.Forall₂ (fun e m => keyText? e.1 = some m.1 ∧ e.2.toJson = .ok m.2) es ms →
      ∀ m ∈ ms, m.2.SortedKeys
  | [], _, .nil => nofun
  | e :: es, _, .cons h hall =>
    List.forall_mem_cons.mpr ⟨entry_sortedKeys e h.2, entries_sortedKeys es hall⟩
  termination_by structural es => es

theorem entry_sortedKeys : ∀ (e : Value × Value) {j : Json}, e.2.toJson = .ok j → j.SortedKeys
  | (_, v), _, h => v.toJson_sortedKeys h
  termination_by structural e => e

end

end DocCheck.Yaml.Value

namespace DocCheck

/-- **Documents.** A document that was read is in order. -/
theorem readDocument_sortedKeys {text : String} {j : Json} (h : readDocument text = .ok j) :
    j.SortedKeys := by
  unfold readDocument at h
  split at h
  · cases h
  · next v _ =>
    split at h
    · cases h
    · next _ hv =>
      cases h
      exact v.toJson_sortedKeys hv

end DocCheck
