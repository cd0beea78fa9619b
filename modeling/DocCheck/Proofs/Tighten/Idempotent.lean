import DocCheck.Proofs.Tighten.Effect

/-!
# Tightening twice

Tightening a tightened schema changes nothing. The member that closes an open schema makes it an
object schema that says something about `additionalProperties`, and nothing else that tightening
does changes whether a schema is open: types are data, and a map of properties stays a map.

The induction is on the value, for all roles at once. A value keeps its role when it is tightened
(`Role.child_used`), so that each part of a tightened value is treated the second time as it was the
first time, whether it is a schema, an item of a list, a schema with a name or data.

* `Role.used_used` — what became of a value by its role stays as it is by the same role;
* `tighten_eq_self_iff` — the schemas that tightening leaves as they are;
* `tighten_idempotent` — a second pass changes nothing, and nothing in a tightened schema is open.
-/

namespace DocCheck.Schema

open Json (lookup)

namespace Role

/-! ### What stays for the second pass -/

/-- What became of a value is treated as the value was. -/
theorem child_used (r r' : Role) (s : Json.Step) (v : Json) :
    r.child s (r'.used v) = r.child s v := by
  have hmember : ∀ k, ofMember k (r'.used v) = ofMember k v := by
    intro k
    unfold ofMember
    rw [isArray_used]
  cases r with
  | schema =>
    cases s with
    | key k => exact hmember k
    | index i => rfl
  | _ => cases s <;> rfl

/-- A schema to which nothing is added stays open or not. -/
theorem isOpen_usedMembers (ms : List (String × Json)) :
    isOpen (schema.usedMembers ms) = isOpen ms := by
  have htype : lookup "type" (schema.usedMembers ms) = lookup "type" ms := by
    -- Types are data.
    have hdata : ∀ v, schema.child (.key "type") v = data := fun v => rfl
    rw [lookup_usedMembers]
    simp only [hdata, used_data, Option.map_id_fun']
    rfl
  have hproperties : (lookup "properties" (schema.usedMembers ms)).any Json.isObject =
      (lookup "properties" ms).any Json.isObject := by
    rw [lookup_usedMembers]
    cases lookup "properties" ms with
    | none => rfl
    | some v => exact isObject_used _ v
  have hadditional : (lookup "additionalProperties" (schema.usedMembers ms)).isNone =
      (lookup "additionalProperties" ms).isNone := by
    rw [lookup_usedMembers, Option.isNone_map]
  unfold isOpen hasObjectType
  rw [htype, hproperties, hadditional]

theorem isOpen_insert (v : Json) (ms : List (String × Json)) :
    isOpen (Json.insert "additionalProperties" v ms) = false := by
  unfold isOpen
  rw [Json.lookup_insert_self, Option.isNone_some, Bool.and_false]

/-! ### The second pass -/

theorem usedMembers_usedMembers {r : Role} {ms : List (String × Json)}
    (h : ∀ m ∈ ms, ∀ r' : Role, r'.used (r'.used m.2) = r'.used m.2) :
    r.usedMembers (r.usedMembers ms) = r.usedMembers ms := by
  unfold usedMembers
  rw [List.map_map]
  refine List.map_congr_left fun m hm => ?_
  change (m.1, (r.child (.key m.1) ((r.child (.key m.1) m.2).used m.2)).used _) = _
  rw [child_used, h m hm]

/-- **The second pass** changes nothing, whatever the role. -/
theorem used_used (r : Role) (j : Json) : r.used (r.used j) = r.used j := by
  induction j using Json.induct generalizing r with
  | scalar j ha ho => rw [used_scalar r ha ho, used_scalar r ha ho]
  | arr xs ih =>
    rw [used_arr, used_arr, List.map_map]
    exact congrArg Json.arr (List.map_congr_left fun x hx => ih x hx _)
  | obj ms ih =>
    have hmembers : r.usedMembers (r.usedMembers ms) = r.usedMembers ms :=
      usedMembers_usedMembers fun m hm r' => ih m hm r'
    rw [used_obj]
    by_cases hopen : r = .schema ∧ isOpen ms = true
    · -- The first pass has closed the schema, and the second one finds it closed.
      rw [if_pos hopen, used_obj, isOpen_insert, if_neg fun h => Bool.false_ne_true h.2]
      have hfalse : (r.child (.key "additionalProperties") (.bool false)).used (.bool false) =
          .bool false := used_scalar _ rfl rfl
      have hinsert := Json.map_insert (fun k v => (r.child (.key k) v).used v)
        "additionalProperties" (.bool false) (r.usedMembers ms)
      rw [hfalse] at hinsert
      change Json.obj ((Json.insert _ _ _).map _) = _
      rw [hinsert]
      exact congrArg (fun ns => Json.obj (Json.insert _ _ ns)) hmembers
    · -- Nothing was added, so that the second pass has nothing to add either.
      rw [if_neg hopen, used_obj, hmembers, if_neg]
      rintro ⟨rfl, h⟩
      rw [isOpen_usedMembers] at h
      exact hopen ⟨rfl, h⟩

end Role

/-! ### Schemas without open subschemas -/

/-- In a schema that tightening leaves as it is no subschema is open. -/
theorem SubschemaAt.not_open {schema v : Json} {path : List Json.Step}
    (h : SubschemaAt schema path v) (hfixed : tighten schema = schema) : ¬IsOpenSchema v := by
  intro hopen
  obtain ⟨ms, rfl, hms⟩ := hopen.exists_members
  -- The subschema is found tightened where it was found as written.
  have hat : schema.at? path = some (tighten (.obj ms)) := by
    rw [← hfixed]
    exact h.at?_tighten
  have hsame : tighten (.obj ms) = .obj ms := by
    rw [h.sound.1] at hat
    exact (Option.some.inj hat).symm
  have hclosed : (tighten (.obj ms)).get? "additionalProperties" = some (.bool false) :=
    lookup_close_of_isOpen hms
  rw [hsame, hopen.additionalProperties] at hclosed
  cases hclosed

/-- **Schemas that stay.** Tightening leaves a schema as it is exactly if none of its subschemas is
open. -/
theorem tighten_eq_self_iff {schema : Json} (hs : schema.SortedKeys) :
    tighten schema = schema ↔ ∀ path v, SubschemaAt schema path v → ¬IsOpenSchema v := by
  constructor
  · intro hfixed path v hv
    exact hv.not_open hfixed
  · intro hnone
    have hplace : ∀ place, ¬ClosingPlace schema place := by
      rintro place ⟨path, v, hv, hopen, _⟩
      exact hnone path v hv hopen
    -- Then the schema itself is what closing its open subschemas makes of it.
    have hself : IsClosing schema schema :=
      ⟨fun place h => absurd h (hplace place), fun path _ => rfl⟩
    exact (tighten_isClosing schema).unique hself (Role.schema.sortedKeys_used hs) hs

/-- **Idempotence.** Tightening a tightened schema changes nothing, whatever value the schema is: no
subschema of it is open any more. The schemas that tightening leaves as they are the first time are
those without an open subschema. -/
theorem tighten_idempotent (schema : Json) :
    tighten (tighten schema) = tighten schema ∧
      (∀ path v, SubschemaAt (tighten schema) path v → ¬IsOpenSchema v) ∧
      (schema.SortedKeys → (tighten schema = schema ↔
        ∀ path v, SubschemaAt schema path v → ¬IsOpenSchema v)) := by
  have htwice : tighten (tighten schema) = tighten schema := Role.schema.used_used schema
  refine ⟨htwice, ?_, tighten_eq_self_iff⟩
  intro path v hv
  exact hv.not_open htwice

end DocCheck.Schema
