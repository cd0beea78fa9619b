import DocCheck.Proofs.Json.Place
import DocCheck.Schema.Tighten

/-!
# Places in a tightened schema

Tightening treats a value inside a schema by the way that leads to it: as a schema, as a list or a
map of schemas, or as data. `Role` says which of these a place is, and `Role.used` what the value
there becomes.

* `close_perm` — the members of a tightened schema, and the one that closes it;
* `Role.child?_used` — a step into the written value is the same step into what became of it, and
  what stands there is treated by its own role (`Role.child`);
* `Role.at?_used` — the same for a whole path.
-/

namespace DocCheck.Schema

open Json (lookup)

/-! ### The members of a tightened schema -/

/-- What the value of a keyword becomes. -/
def tightenValue (keyword : String) (value : Json) : Json := (tightenMember (keyword, value)).2

theorem tightenMembers_eq_map (ms : List (String × Json)) :
    tightenMembers ms = ms.map fun m => (m.1, tightenValue m.1 m.2) := by
  induction ms with
  | nil => rfl
  | cons m rest ih =>
    obtain ⟨k, v⟩ := m
    rw [tightenMembers, ih]
    rfl

theorem tightenItems_eq_map (xs : List Json) : tightenItems xs = xs.map tighten := by
  induction xs with
  | nil => rfl
  | cons x rest ih =>
    rw [tightenItems, ih]
    rfl

theorem tightenNamed_eq_map (ms : List (String × Json)) :
    tightenNamed ms = ms.map fun m => (m.1, tighten m.2) := by
  induction ms with
  | nil => rfl
  | cons m rest ih =>
    obtain ⟨name, v⟩ := m
    rw [tightenNamed, ih]
    rfl

theorem tighten_obj (ms : List (String × Json)) :
    tighten (.obj ms) = .obj (close ms (tightenMembers ms)) := rfl

theorem lookup_additionalProperties_of_isOpen {ms : List (String × Json)} (h : isOpen ms) :
    lookup "additionalProperties" ms = none := by
  simp only [isOpen, Bool.and_eq_true, Option.isNone_iff_eq_none] at h
  exact h.2

theorem exists_listed_of_isOpen {ms : List (String × Json)} (h : isOpen ms) :
    ∃ listed, lookup "properties" ms = some (.obj listed) := by
  simp only [isOpen, Bool.and_eq_true, Option.any_eq_true] at h
  obtain ⟨⟨_, v, hv, hobject⟩, _⟩ := h
  cases v with
  | obj listed => exact ⟨listed, hv⟩
  | _ => exact Bool.noConfusion hobject

/-- Every member that a schema has as written it has when it is tightened. -/
theorem lookup_close_of_isSome {ms : List (String × Json)} {key : String}
    (h : (lookup key ms).isSome) :
    lookup key (close ms (tightenMembers ms)) = (lookup key ms).map (tightenValue key) := by
  unfold close
  split
  · next ho =>
    have hk : key ≠ "additionalProperties" := by
      rintro rfl
      rw [lookup_additionalProperties_of_isOpen ho] at h
      exact absurd h (by simp)
    rw [Json.lookup_insert_of_ne hk, tightenMembers_eq_map, Json.lookup_map]
  · rw [tightenMembers_eq_map, Json.lookup_map]

theorem lookup_close_of_ne {ms : List (String × Json)} {key : String}
    (h : key ≠ "additionalProperties") :
    lookup key (close ms (tightenMembers ms)) = (lookup key ms).map (tightenValue key) := by
  unfold close
  split
  · rw [Json.lookup_insert_of_ne h, tightenMembers_eq_map, Json.lookup_map]
  · rw [tightenMembers_eq_map, Json.lookup_map]

theorem lookup_close_of_isOpen {ms : List (String × Json)} (h : isOpen ms) :
    lookup "additionalProperties" (close ms (tightenMembers ms)) = some (.bool false) := by
  rw [close, if_pos h, Json.lookup_insert_self]

theorem isSome_lookup_close_properties {ms : List (String × Json)} (h : isOpen ms) :
    (lookup "properties" (close ms (tightenMembers ms))).isSome := by
  obtain ⟨listed, hlisted⟩ := exists_listed_of_isOpen h
  rw [lookup_close_of_ne (by decide), hlisted]
  rfl

/-- The members of a tightened schema are those that it was written with, each tightened, and the
one that closes it if it was open. -/
theorem close_perm (ms : List (String × Json)) :
    (close ms (tightenMembers ms)).Perm
      ((if isOpen ms then [("additionalProperties", Json.bool false)] else [])
        ++ ms.map fun m => (m.1, tightenValue m.1 m.2)) := by
  unfold close
  split
  · next ho =>
    rw [← tightenMembers_eq_map]
    refine Json.insert_perm ?_
    rw [tightenMembers_eq_map, Json.lookup_map, lookup_additionalProperties_of_isOpen ho]
    rfl
  · rw [tightenMembers_eq_map]
    exact List.Perm.refl _

/-! ### Roles -/

/-- How tightening treats a value inside a schema. -/
inductive Role where
  /-- As a schema. -/
  | schema
  /-- As a list of schemas. -/
  | items
  /-- As a map from names to schemas. -/
  | named
  /-- As data, which stay as they are. -/
  | data
  deriving DecidableEq

namespace Role

/-- What becomes of a value. -/
def used : Role → Json → Json
  | schema, j => tighten j
  | items, j => tightenList j
  | named, j => tightenMap j
  | data, j => j

/-- The role of the value of a keyword. -/
def ofMember (keyword : String) (value : Json) : Role :=
  match Carrier.ofKeyword keyword with
  | .single => schema
  | .singleOrList => if value.isArray then items else schema
  | .list => items
  | .named => named
  | .data => data

/-- The role of the value that one step leads to. -/
def child : Role → Json.Step → Json → Role
  | schema, .key k, v => ofMember k v
  | items, .index _, _ => schema
  | named, .key _, _ => schema
  | _, _, _ => data

@[simp] theorem used_schema (j : Json) : schema.used j = tighten j := rfl

@[simp] theorem used_data (j : Json) : data.used j = j := rfl

/-- What the value of a keyword becomes is what its role says. -/
theorem tightenValue_eq_used (k : String) (v : Json) : tightenValue k v = (ofMember k v).used v := by
  unfold tightenValue tightenMember ofMember
  cases Carrier.ofKeyword k with
  | singleOrList =>
    change (if v.isArray then tightenList v else tighten v) = _
    split <;> rfl
  | _ => rfl

/-! ### Paths -/

/-- The role of the value that a path leads to. -/
def along (r : Role) (j : Json) : List Json.Step → Role
  | [] => r
  | s :: rest =>
    match j.child? s with
    | some c => (r.child s c).along c rest
    | none => data

theorem along_of_child (r : Role) {j c : Json} {s : Json.Step} (h : j.child? s = some c)
    (rest : List Json.Step) : r.along j (s :: rest) = (r.child s c).along c rest := by
  rw [along, h]

/-- **One step.** What a step leads to in the written value it leads to in the used one, treated by
its own role. -/
theorem child?_used (r : Role) {j c : Json} {s : Json.Step} (h : j.child? s = some c) :
    (r.used j).child? s = some ((r.child s c).used c) := by
  cases j with
  | obj ms =>
    cases s with
    | index i => exact absurd h (by simp [Json.child?])
    | key k =>
      change lookup k ms = some c at h
      -- Only a schema and a map of schemas change below a key; all else is data there.
      cases r with
      | schema =>
        change lookup k (close ms (tightenMembers ms)) = some ((ofMember k c).used c)
        rw [lookup_close_of_isSome (by simp [h]), h, Option.map_some, tightenValue_eq_used]
      | named =>
        change lookup k (tightenNamed ms) = some (schema.used c)
        rw [tightenNamed_eq_map, Json.lookup_map (fun _ v => tighten v), h, Option.map_some,
          used_schema]
      | items =>
        change lookup k ms = some (data.used c)
        rw [h, used_data]
      | data =>
        change lookup k ms = some (data.used c)
        rw [h, used_data]
  | arr xs =>
    cases s with
    | key k => exact absurd h (by simp [Json.child?])
    | index i =>
      change xs[i]? = some c at h
      -- Only a list of schemas changes below an index.
      cases r with
      | items =>
        change (tightenItems xs)[i]? = some (schema.used c)
        rw [tightenItems_eq_map, List.getElem?_map, h, Option.map_some, used_schema]
      | schema =>
        change xs[i]? = some (data.used c)
        rw [h, used_data]
      | named =>
        change xs[i]? = some (data.used c)
        rw [h, used_data]
      | data =>
        change xs[i]? = some (data.used c)
        rw [h, used_data]
  | _ => exact absurd h (by simp [Json.child?])

/-- **A path.** What a path leads to in the written value it leads to in the used one, treated by
the role of that place. -/
theorem at?_used (r : Role) {j c : Json} {path : List Json.Step} (h : j.at? path = some c) :
    (r.used j).at? path = some ((r.along j path).used c) := by
  induction path generalizing r j with
  | nil =>
    rw [Json.at?_nil, Option.some.injEq] at h
    rw [← h]
    rfl
  | cons s rest ih =>
    rw [Json.at?_cons] at h
    obtain ⟨d, hd, hc⟩ := Option.bind_eq_some_iff.mp h
    rw [Json.at?_of_child (child?_used r hd), ih (r.child s d) hc, r.along_of_child hd]

/-- Along a path that goes on, roles go on from the role where its first part leads. -/
theorem along_append (r : Role) {j c : Json} {path : List Json.Step} (h : j.at? path = some c)
    (rest : List Json.Step) : r.along j (path ++ rest) = (r.along j path).along c rest := by
  induction path generalizing r j with
  | nil =>
    rw [Json.at?_nil, Option.some.injEq] at h
    rw [h]
    rfl
  | cons s path ih =>
    rw [Json.at?_cons] at h
    obtain ⟨d, hd, hc⟩ := Option.bind_eq_some_iff.mp h
    rw [List.cons_append, r.along_of_child hd, r.along_of_child hd, ih (r.child s d) hc]

theorem along_concat (r : Role) {j c d : Json} {path : List Json.Step} (h : j.at? path = some c)
    {s : Json.Step} (hd : c.child? s = some d) :
    r.along j (path ++ [s]) = (r.along j path).child s d := by
  rw [r.along_append h, along_of_child _ hd]
  rfl

/-- Below data there are only data. -/
theorem along_data (j : Json) (path : List Json.Step) : data.along j path = data := by
  induction path generalizing j with
  | nil => rfl
  | cons s rest ih =>
    unfold along
    cases j.child? s with
    | none => rfl
    | some c => exact ih c

end Role

end DocCheck.Schema
