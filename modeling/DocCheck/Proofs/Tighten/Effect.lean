import DocCheck.Proofs.Json.Sorted
import DocCheck.Proofs.Tighten.Twin
import Mathlib.Data.List.Induction

/-!
# The effect of tightening

Seen from its result, tightening is one edit: at each open object schema among the subschemas of a
schema, and at no other place, it adds the member `additionalProperties: false`. Data that look like
schemas, names that look like keywords and keywords with unfitting values stay as they are, and so
does every path that leads anywhere.

* `SubschemaAt` — the subschemas of a schema and the paths that lead to them;
* `IsClosing` — an edit that closes the open ones and leaves all else alone;
* `subschemaAt_iff` — subschemas are what tightening treats as schemas;
* `Role.at?_used_of_none` — what there is along a path that led nowhere;
* `tighten_isClosing` — tightening is such an edit;
* `tighten_effect` — it is the only one, and what follows for pointers and subschemas.
-/

namespace DocCheck.Schema

open Json (lookup)

/-! ### Subschemas -/

/-- A path leads from a schema to a subschema: to the schema itself, or from a subschema that is an
object through a keyword to the schema there, to a schema in a list, or to one that has a name. -/
inductive SubschemaAt (schema : Json) : List Json.Step → Json → Prop where
  /-- The schema itself. -/
  | root : SubschemaAt schema [] schema
  /-- The value of a keyword that has one schema. -/
  | single {path : List Json.Step} {ms : List (String × Json)} {k : String} {v : Json}
    (h : SubschemaAt schema path (.obj ms))
    (hk : k ∈ ["additionalProperties", "additionalItems", "not", "if", "then", "else", "contains"])
    (hv : lookup k ms = some v) : SubschemaAt schema (path ++ [.key k]) v
  /-- The value of `items`, unless it is a list. -/
  | items {path : List Json.Step} {ms : List (String × Json)} {v : Json}
    (h : SubschemaAt schema path (.obj ms)) (hv : lookup "items" ms = some v)
    (hitems : v.isArray = false) : SubschemaAt schema (path ++ [.key "items"]) v
  /-- A schema in the list that a keyword has. -/
  | item {path : List Json.Step} {ms : List (String × Json)} {k : String} {xs : List Json} {i : Nat}
    {v : Json} (h : SubschemaAt schema path (.obj ms))
    (hk : k ∈ ["items", "prefixItems", "allOf", "anyOf", "oneOf"])
    (hxs : lookup k ms = some (.arr xs)) (hv : xs[i]? = some v) :
    SubschemaAt schema (path ++ [.key k, .index i]) v
  /-- A schema with a name in the map that a keyword has. -/
  | named {path : List Json.Step} {ms ns : List (String × Json)} {k name : String} {v : Json}
    (h : SubschemaAt schema path (.obj ms))
    (hk : k ∈ ["properties", "patternProperties", "definitions", "$defs", "dependentSchemas",
      "dependencies"])
    (hns : lookup k ms = some (.obj ns)) (hv : lookup name ns = some v) :
    SubschemaAt schema (path ++ [.key k, .key name]) v

/-- An object schema that lists properties and says nothing of others. -/
structure IsOpenSchema (v : Json) : Prop where
  /-- Its type is `object`, or `object` among others. -/
  type : v.get? "type" = some (.str "object") ∨
    ∃ types, v.get? "type" = some (.arr types) ∧ .str "object" ∈ types
  /-- It lists properties. -/
  properties : ∃ listed, v.get? "properties" = some (.obj listed)
  /-- It does not say what becomes of others. -/
  additionalProperties : v.get? "additionalProperties" = none

/-- The places where something is added: `additionalProperties` in each open subschema. -/
def ClosingPlace (schema : Json) (place : List Json.Step) : Prop :=
  ∃ path v, SubschemaAt schema path v ∧ IsOpenSchema v ∧
    place = path ++ [.key "additionalProperties"]

/-- A value is what a schema becomes by closing its open subschemas, and by nothing else. -/
structure IsClosing (schema closed : Json) : Prop where
  /-- Where something is added there was nothing, and now there is `false`. -/
  added : ∀ place, ClosingPlace schema place →
    schema.at? place = none ∧ closed.at? place = some (.bool false)
  /-- Everywhere else the same can be seen as before, if there is anything. -/
  kept : ∀ path, ¬ClosingPlace schema path →
    (closed.at? path).map Json.top = (schema.at? path).map Json.top

/-- An open schema is one that tightening closes. -/
theorem isOpen_iff {ms : List (String × Json)} : isOpen ms = true ↔ IsOpenSchema (.obj ms) := by
  have htype : hasObjectType ms = true ↔ (lookup "type" ms = some (.str "object") ∨
      ∃ types, lookup "type" ms = some (.arr types) ∧ .str "object" ∈ types) := by
    have htext : ∀ j : Json, (j.text? == some "object") = true ↔ j = .str "object" := by
      intro j
      cases j <;> simp [Json.text?]
    unfold hasObjectType
    cases lookup "type" ms with
    | none => simp
    | some v => cases v <;> simp [htext]
  have hproperties : (lookup "properties" ms).any Json.isObject = true ↔
      ∃ listed, lookup "properties" ms = some (.obj listed) := by
    cases lookup "properties" ms with
    | none => simp
    | some v => cases v <;> simp [Json.isObject]
  rw [isOpen, Bool.and_eq_true, Bool.and_eq_true, htype, hproperties, Option.isNone_iff_eq_none]
  constructor
  · rintro ⟨⟨h₁, h₂⟩, h₃⟩
    exact ⟨h₁, h₂, h₃⟩
  · rintro ⟨h₁, h₂, h₃⟩
    exact ⟨⟨h₁, h₂⟩, h₃⟩

/-- Only objects are open. -/
theorem IsOpenSchema.exists_members {v : Json} (h : IsOpenSchema v) :
    ∃ ms, v = .obj ms ∧ isOpen ms = true := by
  obtain ⟨listed, hlisted⟩ := h.properties
  cases v with
  | obj ms => exact ⟨ms, rfl, isOpen_iff.mpr h⟩
  | _ => cases hlisted

/-! ### Roles and subschemas -/

variable {schema : Json} {path : List Json.Step} {v : Json}

/-- A keyword that gives its value a role other than that of data is in the table of keywords. -/
theorem Role.ofMember_cases (k : String) (v : Json) :
    (k ∈ Carrier.singleKeywords ∧ ofMember k v = .schema) ∨
      (k = "items" ∧ v.isArray = false ∧ ofMember k v = .schema) ∨
      (k ∈ "items" :: Carrier.listKeywords ∧ ofMember k v = .items) ∨
      (k ∈ Carrier.namedKeywords ∧ ofMember k v = .named) ∨ ofMember k v = .data := by
  unfold ofMember Carrier.ofKeyword
  simp only [List.contains_iff_mem, List.mem_cons]
  -- The parts of the table are gone through in their order, the first that has the keyword decides.
  by_cases hsingle : k ∈ Carrier.singleKeywords
  · rw [if_pos hsingle]
    exact .inl ⟨hsingle, rfl⟩
  rw [if_neg hsingle]
  by_cases hitems : k = "items"
  · rw [if_pos hitems]
    cases v.isArray with
    | false => exact .inr (.inl ⟨hitems, rfl, rfl⟩)
    | true => exact .inr (.inr (.inl ⟨.inl hitems, rfl⟩))
  rw [if_neg hitems]
  by_cases hlist : k ∈ Carrier.listKeywords
  · rw [if_pos hlist]
    exact .inr (.inr (.inl ⟨.inr hlist, rfl⟩))
  rw [if_neg hlist]
  by_cases hnamed : k ∈ Carrier.namedKeywords
  · rw [if_pos hnamed]
    exact .inr (.inr (.inr (.inl ⟨hnamed, rfl⟩)))
  · rw [if_neg hnamed]
    exact .inr (.inr (.inr (.inr rfl)))

theorem Role.ofMember_single {k : String} (hk : k ∈ Carrier.singleKeywords) (v : Json) :
    ofMember k v = .schema := by
  have hcarrier : ∀ k ∈ Carrier.singleKeywords, Carrier.ofKeyword k = .single := by decide
  unfold ofMember
  rw [hcarrier k hk]

theorem Role.ofMember_list {k : String} (hk : k ∈ "items" :: Carrier.listKeywords)
    (xs : List Json) : ofMember k (.arr xs) = .items := by
  have hcarrier : ∀ k ∈ Carrier.listKeywords, Carrier.ofKeyword k = .list := by decide
  rcases List.mem_cons.mp hk with rfl | hk
  · rfl
  · unfold ofMember
    rw [hcarrier k hk]

theorem Role.ofMember_named {k : String} (hk : k ∈ Carrier.namedKeywords) (v : Json) :
    ofMember k v = .named := by
  have hcarrier : ∀ k ∈ Carrier.namedKeywords, Carrier.ofKeyword k = .named := by decide
  unfold ofMember
  rw [hcarrier k hk]

/-- What is known of a place by its role. A list or a map of schemas is the value of a keyword that
has such a value, in a subschema. -/
def Role.Fits (schema : Json) (path : List Json.Step) (v : Json) : Role → Prop
  | .schema => SubschemaAt schema path v
  | .items => ∃ before ms k, path = before ++ [.key k] ∧ SubschemaAt schema before (.obj ms) ∧
      k ∈ "items" :: Carrier.listKeywords ∧ lookup k ms = some v
  | .named => ∃ before ms k, path = before ++ [.key k] ∧ SubschemaAt schema before (.obj ms) ∧
      k ∈ Carrier.namedKeywords ∧ lookup k ms = some v
  | .data => True

theorem Role.at?_along_concat {r : Role} {s : Json.Step} {c d : Json}
    (h : schema.at? path = some c ∧ Role.schema.along schema path = r) (hd : c.child? s = some d) :
    schema.at? (path ++ [s]) = some d ∧
      Role.schema.along schema (path ++ [s]) = r.child s d := by
  obtain ⟨hc, rfl⟩ := h
  exact ⟨by rw [Json.at?_concat, hc, Option.bind_some, hd], along_concat _ hc hd⟩

/-- A subschema is where its path leads, and tightening treats it as a schema. -/
theorem SubschemaAt.sound (h : SubschemaAt schema path v) :
    schema.at? path = some v ∧ Role.schema.along schema path = .schema := by
  induction h with
  | root => exact ⟨rfl, rfl⟩
  | @single path ms k v _ hk hv ih =>
    have hchild := Role.at?_along_concat (s := .key k) ih hv
    rwa [Role.child, Role.ofMember_single hk] at hchild
  | @items path ms v _ hv hitems ih =>
    have hchild := Role.at?_along_concat (s := .key "items") ih hv
    have hrole : Role.ofMember "items" v = .schema := by
      change (if v.isArray then Role.items else .schema) = _
      rw [hitems, if_neg Bool.false_ne_true]
    rwa [Role.child, hrole] at hchild
  | @item path ms k xs i v _ hk hxs hv ih =>
    -- Two steps: to the list, whose role is that of a list, and to a schema in it.
    have hlist := Role.at?_along_concat (s := .key k) ih hxs
    rw [Role.child, Role.ofMember_list hk] at hlist
    have hchild := Role.at?_along_concat (s := .index i) hlist hv
    rwa [List.append_assoc, List.singleton_append] at hchild
  | @named path ms ns k name v _ hk hns hv ih =>
    have hmap := Role.at?_along_concat (s := .key k) ih hns
    rw [Role.child, Role.ofMember_named hk] at hmap
    have hchild := Role.at?_along_concat (s := .key name) hmap hv
    rwa [List.append_assoc, List.singleton_append] at hchild

/-- **Roles tell subschemas.** Along a path, what tightening treats as a schema is a subschema, and
what it treats as a list or a map of schemas is the value of such a keyword in a subschema. -/
theorem Role.fits_along (h : schema.at? path = some v) :
    (Role.schema.along schema path).Fits schema path v := by
  -- From the end of the path: the role of a place comes from that of the place before.
  induction path using List.reverseRecOn generalizing v with
  | nil =>
    cases h
    exact .root
  | append_singleton before s ih =>
    rw [Json.at?_concat] at h
    obtain ⟨c, hc, hv⟩ := Option.bind_eq_some_iff.mp h
    have hbefore := ih hc
    rw [along_concat _ hc hv]
    cases hrole : Role.schema.along schema before with
    | schema =>
      rw [hrole] at hbefore
      cases s with
      | index i => exact trivial
      | key k =>
        cases c with
        | obj ms =>
          change (ofMember k v).Fits schema _ v
          rcases ofMember_cases k v with ⟨hk, he⟩ | ⟨rfl, hv', he⟩ | ⟨hk, he⟩ | ⟨hk, he⟩ | he
          · exact he ▸ .single hbefore hk hv
          · exact he ▸ .items hbefore hv hv'
          · exact he ▸ ⟨before, ms, k, rfl, hbefore, hk, hv⟩
          · exact he ▸ ⟨before, ms, k, rfl, hbefore, hk, hv⟩
          · exact he ▸ trivial
        | _ => cases hv
    | items =>
      rw [hrole] at hbefore
      obtain ⟨first, ms, k, rfl, hfirst, hk, hc⟩ := hbefore
      cases s with
      | key name => exact trivial
      | index i =>
        cases c with
        | arr xs =>
          rw [List.append_assoc, List.singleton_append]
          exact .item hfirst hk hc hv
        | _ => cases hv
    | named =>
      rw [hrole] at hbefore
      obtain ⟨first, ms, k, rfl, hfirst, hk, hc⟩ := hbefore
      cases s with
      | index i => exact trivial
      | key name =>
        cases c with
        | obj ns =>
          rw [List.append_assoc, List.singleton_append]
          exact .named hfirst hk hc hv
        | _ => cases hv
    | data => exact trivial

/-- **Subschemas.** They are the values that tightening treats as schemas. -/
theorem subschemaAt_iff : SubschemaAt schema path v ↔
    schema.at? path = some v ∧ Role.schema.along schema path = .schema := by
  constructor
  · exact SubschemaAt.sound
  · rintro ⟨hat, hrole⟩
    have hfits := Role.fits_along hat
    rwa [hrole] at hfits

/-! ### Along a path -/

/-- What can be seen of a value at its own place stays, whatever its role. -/
theorem Role.top_used (r : Role) (j : Json) : (r.used j).top = j.top := by
  cases r <;> cases j <;> rfl

/-- A step that led nowhere leads nowhere, or to the member that closes a schema. -/
theorem Role.child?_used_of_none (r : Role) {j : Json} {s : Json.Step} (h : j.child? s = none) :
    (r.used j).child? s = none ∨
      (r = .schema ∧ s = .key "additionalProperties" ∧ ∃ ms, j = .obj ms ∧ isOpen ms = true ∧
        (r.used j).child? s = some (.bool false)) := by
  cases j with
  | obj ms =>
    cases s with
    | index i =>
      rw [used_obj]
      exact .inl rfl
    | key k =>
      change lookup k ms = none at h
      -- Members keep their keys, so that only the one that is put in can be new.
      have hnone : lookup k (r.usedMembers ms) = none := by
        rw [lookup_usedMembers, h]
        rfl
      rw [used_obj]
      by_cases ho : r = .schema ∧ isOpen ms = true
      · rw [if_pos ho]
        by_cases hk : k = "additionalProperties"
        · subst hk
          exact .inr ⟨ho.1, rfl, ms, rfl, ho.2, Json.lookup_insert_self⟩
        · refine .inl ?_
          change lookup k (Json.insert _ _ _) = none
          rw [Json.lookup_insert_of_ne hk, hnone]
      · rw [if_neg ho]
        exact .inl hnone
  | arr xs =>
    rw [used_arr]
    cases s with
    | key k => exact .inl rfl
    | index i =>
      change xs[i]? = none at h
      refine .inl ?_
      change (xs.map _)[i]? = none
      rw [List.getElem?_map, h, Option.map_none]
  | _ =>
    rw [used_scalar r rfl rfl]
    exact .inl h

/-- **Nothing else is added.** Where a path led nowhere, it leads to something only at the place of
a member that closes a schema. -/
theorem Role.at?_used_of_none (r : Role) {j x : Json} {place : List Json.Step}
    (h : j.at? place = none) (hx : (r.used j).at? place = some x) :
    ∃ path ms, place = path ++ [.key "additionalProperties"] ∧ j.at? path = some (.obj ms) ∧
      r.along j path = .schema ∧ isOpen ms = true := by
  induction place generalizing r j with
  | nil => cases h
  | cons s rest ih =>
    cases hc : j.child? s with
    | some c =>
      -- Both values go on to what the step leads to, and the place is found from there.
      rw [Json.at?_of_child hc] at h
      rw [Json.at?_of_child (child?_used r hc)] at hx
      obtain ⟨path, ms, rfl, hat, hrole, hopen⟩ := ih (r.child s c) h hx
      refine ⟨s :: path, ms, rfl, ?_, ?_, hopen⟩
      · rw [Json.at?_of_child hc, hat]
      · rw [r.along_of_child hc, hrole]
    | none =>
      rcases r.child?_used_of_none hc with hnone | ⟨rfl, rfl, ms, rfl, hopen, hclosed⟩
      · rw [Json.at?_cons, hnone] at hx
        cases hx
      · -- Nothing stands below the member that closes a schema.
        cases rest with
        | nil => exact ⟨[], ms, rfl, rfl, rfl, hopen⟩
        | cons t rest =>
          rw [Json.at?_of_child hclosed] at hx
          cases hx

/-! ### Values in order -/

/-- What a value in order becomes is in order. -/
theorem Role.sortedKeys_used (r : Role) {j : Json} (h : j.SortedKeys) : (r.used j).SortedKeys := by
  induction j using Json.induct generalizing r with
  | scalar j ha ho =>
    rw [used_scalar r ha ho]
    exact h
  | arr xs ih =>
    rw [used_arr]
    refine Json.sortedItems_iff.mpr fun y hy => ?_
    obtain ⟨x, hx, rfl⟩ := List.mem_map.mp hy
    exact ih x hx _ (h.item hx)
  | obj ms ih =>
    have hmembers : (Json.obj (r.usedMembers ms)).SortedKeys := by
      refine ⟨List.pairwise_map.mpr h.1, Json.sortedMembers_iff.mpr fun n hn => ?_⟩
      obtain ⟨m, hm, rfl⟩ := List.mem_map.mp hn
      exact ih m hm _ (h.member hm)
    rw [used_obj]
    split
    · exact hmembers.insert trivial
    · exact hmembers

/-! ### Pointers -/

/-- Where a step of a pointer leads anywhere, it leads to what became of that value. -/
theorem Role.segment?_used (r : Role) {j c : Json} {segment : List Char}
    (h : segment? j segment = some c) :
    ∃ r' : Role, segment? (r.used j) segment = some (r'.used c) := by
  cases j with
  | arr xs =>
    rw [used_arr]
    refine ⟨r.child (.index 0) .null, ?_⟩
    unfold segment? at h ⊢
    obtain ⟨i, hi, hc⟩ := Option.bind_eq_some_iff.mp h
    dsimp only
    rw [hi, Option.bind_some, List.getElem?_map, hc, Option.map_some]
  | obj ms =>
    change (Json.obj ms).get? _ = some c at h
    have hkey := r.get?_used (.inr (Option.isSome_of_eq_some h))
    rw [h, Option.map_some, used_obj] at hkey
    rw [used_obj]
    exact ⟨_, hkey⟩
  | _ => cases h

/-- **Pointers.** A pointer that leads anywhere leads to what became of that value. -/
theorem Role.valueAt?_used (r : Role) {j : Json} {pointer : List (List Char)}
    (h : valueAt? j pointer = some v) :
    ∃ r' : Role, valueAt? (r.used j) pointer = some (r'.used v) := by
  induction pointer generalizing r j with
  | nil =>
    cases h
    exact ⟨r, rfl⟩
  | cons segment rest ih =>
    rw [valueAt?_cons] at h
    obtain ⟨c, hc, hv⟩ := Option.bind_eq_some_iff.mp h
    obtain ⟨r₁, hc₁⟩ := r.segment?_used hc
    obtain ⟨r₂, hv₂⟩ := ih r₁ hv
    refine ⟨r₂, ?_⟩
    rw [valueAt?_cons, hc₁, Option.bind_some, hv₂]

/-! ### The edit -/

theorem SubschemaAt.at?_tighten (h : SubschemaAt schema path v) :
    (tighten schema).at? path = some (tighten v) := by
  obtain ⟨hat, hrole⟩ := h.sound
  have hused := Role.schema.at?_used hat
  rwa [hrole, Role.used_schema, Role.used_schema] at hused

/-- Tightening closes the open subschemas of a schema, and does nothing else. -/
theorem tighten_isClosing (schema : Json) : IsClosing schema (tighten schema) where
  added := by
    rintro _ ⟨path, v, hv, hopen, rfl⟩
    obtain ⟨ms, rfl, hms⟩ := hopen.exists_members
    rw [Json.at?_concat, Json.at?_concat, hv.sound.1, hv.at?_tighten]
    exact ⟨hopen.additionalProperties, lookup_close_of_isOpen hms⟩
  kept := by
    intro path hpath
    cases hat : schema.at? path with
    | some v =>
      rw [← Role.used_schema, Role.schema.at?_used hat, Option.map_some, Option.map_some,
        Role.top_used]
    | none =>
      cases hclosed : (tighten schema).at? path with
      | none => rfl
      | some x =>
        obtain ⟨before, ms, hplace, hbefore, hrole, hopen⟩ :=
          Role.schema.at?_used_of_none hat hclosed
        exact absurd ⟨before, .obj ms, subschemaAt_iff.mpr ⟨hbefore, hrole⟩, isOpen_iff.mp hopen,
          hplace⟩ hpath

theorem IsClosing.unique {closed closed' : Json} (h : IsClosing schema closed)
    (h' : IsClosing schema closed') (hs : closed.SortedKeys) (hs' : closed'.SortedKeys) :
    closed = closed' := by
  refine Json.eq_of_top_at? hs hs' fun path => ?_
  by_cases hpath : ClosingPlace schema path
  · rw [(h.added path hpath).2, (h'.added path hpath).2]
  · rw [h.kept path hpath, h'.kept path hpath]

/-- **The effect of tightening.** A tightened schema is the schema with `additionalProperties: false`
added at its open subschemas, where nothing was said about it, and with no other path added, removed
or changed; among values in order this says which value it is. So every pointer that leads anywhere
in the schema still does, and each subschema is found tightened at its place. -/
theorem tighten_effect (schema : Json) :
    IsClosing schema (tighten schema) ∧
      (schema.SortedKeys → (tighten schema).SortedKeys ∧
        ∀ closed : Json, closed.SortedKeys → IsClosing schema closed → closed = tighten schema) ∧
      (∀ pointer, (valueAt? schema pointer).isSome → (valueAt? (tighten schema) pointer).isSome) ∧
      ∀ path v, SubschemaAt schema path v →
        schema.at? path = some v ∧ (tighten schema).at? path = some (tighten v) := by
  refine ⟨tighten_isClosing schema, fun hs => ?_, fun pointer h => ?_,
    fun path v hv => ⟨hv.sound.1, hv.at?_tighten⟩⟩
  · have hsorted : (tighten schema).SortedKeys := Role.schema.sortedKeys_used hs
    exact ⟨hsorted, fun closed hclosed h => h.unique (tighten_isClosing schema) hclosed hsorted⟩
  · obtain ⟨v, hv⟩ := Option.isSome_iff_exists.mp h
    obtain ⟨r, hr⟩ := Role.schema.valueAt?_used hv
    exact Option.isSome_of_eq_some hr

/-- What an enumeration lists is data, and the name of a property is no keyword. -/
example :
    tighten (.obj [
      ("enum", .arr [.obj [("properties", .obj []), ("type", .str "object")]]),
      ("properties", .obj [("enum", .obj [("properties", .obj []), ("type", .str "object")])])]) =
    .obj [
      ("enum", .arr [.obj [("properties", .obj []), ("type", .str "object")]]),
      ("properties", .obj [("enum", .obj [("additionalProperties", .bool false),
        ("properties", .obj []), ("type", .str "object")])])] := by
  decide

end DocCheck.Schema
