import DocCheck.Proofs.Yaml.ToJson
import Mathlib.Data.Option.Basic

/-!
# What is kept of a YAML value

In a JSON object the keys of a mapping are texts, and different keys may have the same text: the
number `1` and the string `1` are two keys of a mapping, but one key of an object. Of entries whose
keys have the same text only the last is kept. So nothing of an accepted value is lost exactly if at
every depth the texts of the keys of a mapping differ.

* `Value.lookup_of_toJson_map` — of the entries of a mapping the last one for each text stays;
* `Value.Kept` — nothing of a value is lost;
* `Value.DistinctTexts` — the texts of keys differ, at every depth;
* `Value.kept_iff` — the one exactly if the other, and which entries stay otherwise.
-/

namespace DocCheck.Yaml.Value

open Json (built lookup)

/-! ### Which entries stay -/

/-- The value of the last entry whose key has a text. -/
def lastUnder? (text : String) (es : List (Value × Value)) : Option Value :=
  (es.reverse.find? fun e => keyText? e.1 == some text).map Prod.snd

/-- **The last entry stays.** Under a text an accepted mapping has what the value of the last entry
with this text becomes. -/
theorem lookup_of_toJson_map {es : List (Value × Value)} {j : Json} (h : (map es).toJson = .ok j) :
    ∃ ms, j = .obj ms ∧ ∀ text, (lookup text ms).map .ok = (lastUnder? text es).map toJson := by
  obtain ⟨ns, hall, rfl, hlookup⟩ := toJson_map h
  refine ⟨_, rfl, fun text => ?_⟩
  rw [hlookup text, lastUnder?]
  -- both sides now look for the first one of the reversed lists
  have hreverse := List.forall₂_reverse_iff.mpr hall
  generalize es.reverse = es' at hreverse
  generalize ns.reverse = ns' at hreverse
  induction hreverse with
  | nil => rfl
  | @cons e m es' ns' he _ ih =>
    rw [Json.lookup_cons, List.find?_cons, he.1]
    by_cases hm : m.1 = text
    · rw [if_pos hm, hm, beq_self_eq_true]
      exact congrArg some he.2.symm
    · rw [if_neg hm, beq_false_of_ne fun heq => hm (Option.some.inj heq)]
      exact ih

/-! ### What is kept -/

mutual

/-- Nothing of a value is lost in a JSON value: at every mapping the object has as many members as
there are entries, and under the text of each key it has what the entry's value becomes. -/
def Kept : Value → Json → Prop
  | .seq xs, .arr ys => KeptItems xs ys
  | .map es, .obj ms => ms.length = es.length ∧ KeptEntries es ms
  | .seq _, _ | .map _, _ => False
  | v, j => v.toJson = .ok j
  termination_by structural v => v

/-- Nothing is lost of items, one by one. -/
def KeptItems : List Value → List Json → Prop
  | [], [] => True
  | x :: xs, y :: ys => Kept x y ∧ KeptItems xs ys
  | _, _ => False
  termination_by structural xs => xs

/-- Nothing is lost of entries in the members of an object. -/
def KeptEntries : List (Value × Value) → List (String × Json) → Prop
  | [], _ => True
  | e :: es, ms => KeptEntry e ms ∧ KeptEntries es ms
  termination_by structural es => es

/-- Nothing is lost of an entry in the members of an object. -/
def KeptEntry : Value × Value → List (String × Json) → Prop
  | (k, v), ms => ∃ text j, keyText? k = some text ∧ lookup text ms = some j ∧ v.toJson = .ok j ∧
    Kept v j
  termination_by structural e => e

end

mutual

/-- At every depth the texts of the keys of a mapping differ. -/
def DistinctTexts : Value → Prop
  | .seq xs => DistinctItems xs
  | .map es => (es.map fun e => keyText? e.1).Nodup ∧ DistinctEntries es
  | .tagged _ v => DistinctTexts v
  | _ => True
  termination_by structural v => v

/-- `DistinctTexts` of each item. -/
def DistinctItems : List Value → Prop
  | [] => True
  | x :: xs => DistinctTexts x ∧ DistinctItems xs
  termination_by structural xs => xs

/-- `DistinctTexts` of the value of each entry. -/
def DistinctEntries : List (Value × Value) → Prop
  | [] => True
  | e :: es => DistinctEntry e ∧ DistinctEntries es
  termination_by structural es => es

/-- `DistinctTexts` of the value of an entry. -/
def DistinctEntry : Value × Value → Prop
  | (_, v) => DistinctTexts v
  termination_by structural e => e

end

/-- All members of an object stay exactly if the texts of the keys differ. -/
theorem length_built_eq_iff_nodup {es : List (Value × Value)} {ms : List (String × Json)}
    (h : List.Forall₂ (fun e m => keyText? e.1 = some m.1 ∧ e.2.toJson = .ok m.2) es ms) :
    (built [] ms).length = es.length ↔ (es.map fun e => keyText? e.1).Nodup := by
  have htexts : es.map (fun e => keyText? e.1) = (ms.map Prod.fst).map some := by
    rw [← List.forall₂_eq_eq_eq, List.map_map, List.forall₂_map_left_iff,
      List.forall₂_map_right_iff]
    exact h.imp fun e m he => he.1
  rw [h.length_eq, Json.length_built_eq_iff, htexts,
    List.nodup_map_iff (Option.some_injective _)]

/-! ### The same at every depth

By induction on the value. Whether entries are kept is asked only where the texts of their keys
differ: there, what is found under the text of a key is what the value of this entry becomes. -/

mutual

/-- **Values.** Nothing of an accepted value is lost exactly if the texts of keys differ at every
depth. -/
theorem kept_iff_distinctTexts :
    ∀ (v : Value) {j : Json}, v.toJson = .ok j → (Kept v j ↔ DistinctTexts v)
  | .null, _, h => ⟨fun _ => trivial, fun _ => h⟩
  | .bool _, _, h => ⟨fun _ => trivial, fun _ => h⟩
  | .num _, _, h => ⟨fun _ => trivial, fun _ => h⟩
  | .str _, _, h => ⟨fun _ => trivial, fun _ => h⟩
  | .seq xs, _, h => by
    obtain ⟨ys, rfl, hall⟩ := toJson_seq h
    exact keptItems_iff xs hall
  | .map es, _, h => by
    obtain ⟨ms, hall, rfl, _⟩ := toJson_map h
    -- the count of members says whether the texts differ; the entries are asked only if they do
    change (built [] ms).length = es.length ∧ KeptEntries es (built [] ms) ↔
      (es.map fun e => keyText? e.1).Nodup ∧ DistinctEntries es
    rw [length_built_eq_iff_nodup hall]
    refine and_congr_right fun hnodup => ?_
    have hkeys : (ms.map Prod.fst).Nodup := by
      rw [← Json.length_built_eq_iff, (length_built_eq_iff_nodup hall).mpr hnodup, hall.length_eq]
    have hmem : List.Forall₂ (fun m e => m ∈ ms ∧
        keyText? e.1 = some m.1 ∧ e.2.toJson = .ok m.2) ms es :=
      (List.forall₂_and_left _ _).mpr ⟨fun _ hm => hm, hall.flip⟩
    refine keptEntries_iff es (hmem.flip.imp fun e m he => ?_)
    exact ⟨he.2.1, he.2.2, Json.lookup_built_of_mem hkeys he.1⟩
  | .tagged _ _, _, h => nomatch h
  termination_by structural v => v

theorem keptItems_iff : ∀ (xs : List Value) {ys : List Json},
    List.Forall₂ (fun x y => x.toJson = .ok y) xs ys → (KeptItems xs ys ↔ DistinctItems xs)
  | [], _, .nil => Iff.rfl
  | x :: xs, _, .cons h hall => and_congr (kept_iff_distinctTexts x h) (keptItems_iff xs hall)
  termination_by structural xs => xs

theorem keptEntries_iff : ∀ (es : List (Value × Value)) {ns ms : List (String × Json)},
    List.Forall₂ (fun e m => keyText? e.1 = some m.1 ∧ e.2.toJson = .ok m.2 ∧
      lookup m.1 ms = some m.2) es ns → (KeptEntries es ms ↔ DistinctEntries es)
  | [], _, _, .nil => Iff.rfl
  | e :: es, _, _, .cons h hall => and_congr (keptEntry_iff e h) (keptEntries_iff es hall)
  termination_by structural es => es

theorem keptEntry_iff : ∀ (e : Value × Value) {m : String × Json} {ms : List (String × Json)},
    keyText? e.1 = some m.1 ∧ e.2.toJson = .ok m.2 ∧ lookup m.1 ms = some m.2 →
      (KeptEntry e ms ↔ DistinctEntry e)
  | (k, v), m, ms, ⟨hk, hv, hm⟩ => by
    have hsub := kept_iff_distinctTexts v hv
    constructor
    -- An entry has one value only, so what is kept of it is what it became.
    · rintro ⟨text, j, _, _, hj, hkept⟩
      rw [hv] at hj
      cases hj
      exact hsub.mp hkept
    · intro hdistinct
      exact ⟨m.1, m.2, hk, hm, hv, hsub.mpr hdistinct⟩
  termination_by structural e => e

end

/-- **What is kept.** Nothing of an accepted value is lost exactly if at every depth the texts of
the keys of a mapping differ. In a mapping, of entries with the same text the last one stays. -/
theorem kept_iff {v : Value} {j : Json} (h : v.toJson = .ok j) :
    (Kept v j ↔ DistinctTexts v) ∧
      ∀ es, v = map es → ∃ ms, j = .obj ms ∧
        ∀ text, (lookup text ms).map .ok = (lastUnder? text es).map toJson := by
  refine ⟨kept_iff_distinctTexts v h, ?_⟩
  rintro es rfl
  exact lookup_of_toJson_map h

/-- The keys `1` and `'1'` of one mapping, read from its text. -/
def sameTexts : Value := map [(num (.int 1), str "a"), (str "1", str "b")]

/-- The first entry of `1: a` and `'1': b` is lost, also below another mapping. -/
theorem kept_iff_sameTexts :
    (map [(str "x", sameTexts)]).toJson = .ok (.obj [("x", .obj [("1", .str "b")])]) ∧
      ¬ Kept (map [(str "x", sameTexts)]) (.obj [("x", .obj [("1", .str "b")])]) ∧
      (readDocument "x:\n  1: a\n  '1': b").toOption =
        some (.obj [("x", .obj [("1", .str "b")])]) := by
  have h : (map [(str "x", sameTexts)]).toJson = .ok (.obj [("x", .obj [("1", .str "b")])]) := rfl
  refine ⟨h, fun hkept => ?_, by decide +kernel⟩
  have hnodup := ((kept_iff h).1.mp hkept).2.1.1
  revert hnodup
  decide

end DocCheck.Yaml.Value
