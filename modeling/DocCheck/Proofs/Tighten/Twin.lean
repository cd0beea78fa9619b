import DocCheck.Proofs.Tighten.Place
import DocCheck.Schema.Collect
import Mathlib.Data.List.Forall2

/-!
# Twins

A written value and what it became by its role look the same to everything that is asked of a
schema while it is collected: its draft, its name, its anchors and its references. The one exception
is the member that closes an open schema, and that is `false`, which is no object and holds nothing.

* `Twin` — a written value and what became of it;
* `Role.get?_used` — the members of twins are twins;
* `Role.objects_used` — twins hold the same number of objects;
* `Inherits` — a relation of twins that goes on to what stands inside them;
* `Inherits.subschemas` — it relates the subschemas of twins, one by one;
* `Inherits.valueAt?` — a pointer leads to what it relates, or only to the member that closes a
  schema.
-/

namespace DocCheck.Schema

open Json (lookup)

/-- A written value, whose members are in order, and what became of it by some role. -/
def Twin (written used : Json) : Prop :=
  ∃ r : Role, written.SortedKeys ∧ used = r.used written

namespace Role

theorem twin (r : Role) {j : Json} (h : j.SortedKeys) : Twin j (r.used j) := ⟨r, h, rfl⟩

/-! ### Kinds of values -/

@[simp] theorem isObject_used (r : Role) (j : Json) : (r.used j).isObject = j.isObject := by
  cases r <;> cases j <;> rfl

@[simp] theorem isArray_used (r : Role) (j : Json) : (r.used j).isArray = j.isArray := by
  cases r <;> cases j <;> rfl

@[simp] theorem text?_used (r : Role) (j : Json) : (r.used j).text? = j.text? := by
  cases r <;> cases j <;> rfl

theorem used_scalar (r : Role) {j : Json} (ha : j.isArray = false) (ho : j.isObject = false) :
    r.used j = j := by
  cases j with
  | arr xs => exact Bool.noConfusion ha
  | obj ms => exact Bool.noConfusion ho
  | _ => cases r <;> rfl

/-! ### Items -/

/-- The items of an array become what their roles say. -/
theorem used_arr (r : Role) (xs : List Json) :
    r.used (.arr xs) = .arr (xs.map (r.child (.index 0) .null).used) := by
  cases r with
  | items =>
    change Json.arr (tightenItems xs) = _
    rw [tightenItems_eq_map]
    rfl
  | schema => exact congrArg Json.arr (List.map_id xs).symm
  | named => exact congrArg Json.arr (List.map_id xs).symm
  | data => exact congrArg Json.arr (List.map_id xs).symm

/-! ### Members -/

/-- The members of an object, each become what its role says. -/
def usedMembers (r : Role) (ms : List (String × Json)) : List (String × Json) :=
  ms.map fun m => (m.1, (r.child (.key m.1) m.2).used m.2)

theorem lookup_usedMembers (r : Role) (ms : List (String × Json)) (key : String) :
    lookup key (r.usedMembers ms) = (lookup key ms).map fun v => (r.child (.key key) v).used v :=
  Json.lookup_map (fun k v => (r.child (.key k) v).used v) ms key

/-- An object becomes the object of what its members become, with `additionalProperties: false`
put in if it is a schema and was open. -/
theorem used_obj (r : Role) (ms : List (String × Json)) :
    r.used (.obj ms) =
      .obj (if r = .schema ∧ isOpen ms then
        Json.insert "additionalProperties" (.bool false) (r.usedMembers ms)
      else r.usedMembers ms) := by
  have hdata : ∀ ns : List (String × Json), (ns.map fun m => (m.1, m.2)) = ns := fun ns => by
    exact List.map_id ns
  cases r with
  | schema =>
    change Json.obj (close ms (tightenMembers ms)) = _
    have hm : tightenMembers ms = usedMembers .schema ms := by
      rw [tightenMembers_eq_map]
      exact List.map_congr_left fun m _ => by rw [tightenValue_eq_used]; rfl
    rw [close, hm]
    simp only [true_and]
  | named =>
    change Json.obj (tightenNamed ms) = _
    rw [tightenNamed_eq_map, if_neg (by simp)]
    rfl
  | items => rw [if_neg (by simp)]; exact congrArg Json.obj (hdata ms).symm
  | data => rw [if_neg (by simp)]; exact congrArg Json.obj (hdata ms).symm

theorem lookup_usedMembers_eq_none {r : Role} {ms : List (String × Json)} (h : isOpen ms) :
    lookup "additionalProperties" (r.usedMembers ms) = none := by
  rw [lookup_usedMembers, lookup_additionalProperties_of_isOpen h]
  rfl

/-- Every member but the one that closes a schema is the twin of a written member. -/
theorem get?_used (r : Role) {j : Json} {key : String}
    (h : key ≠ "additionalProperties" ∨ (j.get? key).isSome) :
    (r.used j).get? key = (j.get? key).map fun v => (r.child (.key key) v).used v := by
  cases j with
  | obj ms =>
    rw [used_obj]
    split
    · next ho =>
      have hk : key ≠ "additionalProperties" := by
        refine h.elim id fun hs he => ?_
        rw [he] at hs
        change (lookup "additionalProperties" ms).isSome = true at hs
        rw [lookup_additionalProperties_of_isOpen ho.2] at hs
        exact Bool.noConfusion hs
      change lookup key (Json.insert _ _ (r.usedMembers ms)) = _
      rw [Json.lookup_insert_of_ne hk, lookup_usedMembers]
      rfl
    · exact lookup_usedMembers r ms key
  | arr xs =>
    rw [used_arr]
    rfl
  | _ =>
    rw [used_scalar r rfl rfl]
    rfl

/-- What a value says about `additionalProperties` where the written one says nothing. -/
theorem get?_used_additionalProperties (r : Role) {j : Json}
    (h : j.get? "additionalProperties" = none) :
    (r.used j).get? "additionalProperties" = none ∨
      (r.used j).get? "additionalProperties" = some (.bool false) := by
  cases j with
  | obj ms =>
    rw [used_obj]
    split
    · exact .inr Json.lookup_insert_self
    · refine .inl ?_
      change lookup _ (r.usedMembers ms) = none
      change lookup _ ms = none at h
      rw [lookup_usedMembers, h]
      rfl
  | arr xs =>
    rw [used_arr]
    exact .inl rfl
  | _ =>
    rw [used_scalar r rfl rfl]
    exact .inl rfl

/-- Twins have the same texts under every key. -/
@[simp] theorem text_get?_used (r : Role) (j : Json) (key : String) :
    ((r.used j).get? key).bind Json.text? = (j.get? key).bind Json.text? := by
  by_cases h : key ≠ "additionalProperties" ∨ (j.get? key).isSome
  · rw [get?_used r h]
    cases j.get? key with
    | none => rfl
    | some v => exact text?_used _ v
  · obtain ⟨hk, hn⟩ := not_or.mp h
    rw [not_not] at hk
    subst hk
    rw [Option.not_isSome_iff_eq_none] at hn
    rw [hn]
    rcases get?_used_additionalProperties r hn with he | he
    · rw [he]
    · rw [he]
      rfl

theorem isSome_get?_used (r : Role) (j : Json) {key : String} (h : key ≠ "additionalProperties") :
    ((r.used j).get? key).isSome = (j.get? key).isSome := by
  rw [get?_used r (.inl h), Option.isSome_map]

/-- Twins say the same truth values under every other key than `additionalProperties`. -/
theorem get?_used_eq_bool (r : Role) (j : Json) {key : String} (h : key ≠ "additionalProperties")
    (b : Bool) : ((r.used j).get? key == some (.bool b)) = (j.get? key == some (.bool b)) := by
  rw [get?_used r (.inl h)]
  cases j.get? key with
  | none => rfl
  | some v =>
    rw [Option.map_some]
    generalize r.child (.key key) v = r'
    cases v <;> cases r' <;> rfl

/-! ### Numbers of objects -/

/-- Twins hold the same number of objects. -/
theorem objects_used (r : Role) (j : Json) : (r.used j).objects = j.objects := by
  induction j using Json.induct generalizing r with
  | scalar j ha ho => rw [used_scalar r ha ho]
  | arr xs ih =>
    rw [used_arr, Json.objects, Json.objects, Json.objectsItems_map fun x hx => ih x hx _]
  | obj ms ih =>
    have hm : Json.objectsMembers (r.usedMembers ms) = Json.objectsMembers ms :=
      Json.objectsMembers_map fun m hm => ih m hm _
    rw [used_obj]
    split
    · next ho =>
      have hp : (Json.insert "additionalProperties" (.bool false) (r.usedMembers ms)).Perm _ :=
        Json.insert_perm (lookup_usedMembers_eq_none ho.2)
      -- `false` holds no object.
      have hbool : Json.objectsMember ("additionalProperties", .bool false) = 0 := rfl
      rw [Json.objects, Json.objects, ← hm, Json.objectsMembers_perm hp, Json.objectsMembers, hbool,
        Nat.zero_add]
    · rw [Json.objects, Json.objects, hm]

/-! ### Drafts, names and anchors -/

@[simp] theorem detect_used (r : Role) (d : Draft) (j : Json) :
    d.detect (r.used j) = d.detect j := by
  unfold Draft.detect
  rw [text_get?_used]

@[simp] theorem id?_used (r : Role) (d : Draft) (j : Json) : d.id? (r.used j) = d.id? j := by
  unfold Draft.id?
  rw [text_get?_used, isSome_get?_used r j (by decide)]

@[simp] theorem anchors_used (r : Role) (d : Draft) (j : Json) :
    d.anchors (r.used j) = d.anchors j := by
  unfold Draft.anchors Draft.keywordAnchor
  simp only [text_get?_used]

end Role

/-! ### Inside twins -/

theorem Twin.isObject_eq {written used : Json} (h : Twin written used) :
    used.isObject = written.isObject := by
  obtain ⟨r, _, rfl⟩ := h
  exact r.isObject_used written

/-- The role of an item does not depend on which one it is. -/
theorem Role.child_index (r : Role) (i : Nat) (v : Json) :
    r.child (.index i) v = r.child (.index 0) .null := by
  cases r <;> rfl

theorem twin_tighten {j : Json} (h : j.SortedKeys) : Twin j (tighten j) := Role.schema.twin h

/-- A relation of written values and what became of them that goes on to what stands inside them. It
may say more than that they are twins, such as where they stand. -/
structure Inherits (R : Json → Json → Prop) : Prop where
  /-- It relates twins. -/
  twin : ∀ {written used : Json}, R written used → Twin written used
  /-- It relates what the same step leads to. -/
  child : ∀ {written used w u : Json} {s : Json.Step}, R written used → written.child? s = some w →
    used.child? s = some u → R w u

theorem Twin.inherits : Inherits Twin where
  twin h := h
  child := by
    rintro written _ w u s ⟨r, hs, rfl⟩ hw hu
    obtain rfl : _ = u := Option.some.inj ((r.child?_used hw).symm.trans hu)
    exact (r.child s w).twin (hs.child hw)

/-- What is found in a written value and in what became of it: related values, or nothing, or only
the member that closes a schema. -/
inductive FoundTwin (R : Json → Json → Prop) : Option Json → Option Json → Prop where
  /-- Nothing is there. -/
  | missing : FoundTwin R none none
  /-- The member that closes a schema, where nothing was written. -/
  | closing : FoundTwin R none (some (.bool false))
  /-- Related values. -/
  | found {written used : Json} (h : R written used) : FoundTwin R (some written) (some used)

/-- What holds of nothing found, of the member that closes a schema and of related values holds of
all that is found. -/
@[elab_as_elim]
theorem FoundTwin.elim {R : Json → Json → Prop} {motive : Option Json → Option Json → Prop}
    {w u : Option Json} (h : FoundTwin R w u) (missing : motive none none)
    (closing : motive none (some (.bool false)))
    (found : ∀ w u, R w u → motive (some w) (some u)) : motive w u := by
  cases h with
  | missing => exact missing
  | closing => exact closing
  | found h => exact found _ _ h

namespace Inherits

variable {R : Json → Json → Prop} {written used : Json}

theorem child_used (hR : Inherits R) {r : Role} {w : Json} {s : Json.Step}
    (h : R written (r.used written)) (hw : written.child? s = some w) :
    R w ((r.child s w).used w) :=
  hR.child h hw (r.child?_used hw)

theorem items (hR : Inherits R) {xs : List Json} (h : R (.arr xs) used) :
    ∃ ys, used = .arr ys ∧ List.Forall₂ R xs ys := by
  obtain ⟨r, _, rfl⟩ := hR.twin h
  refine ⟨_, r.used_arr xs, ?_⟩
  rw [List.forall₂_map_right_iff, List.forall₂_same]
  intro x hx
  obtain ⟨i, hi⟩ := List.mem_iff_getElem?.mp hx
  have hchild : (Json.arr xs).child? (.index i) = some x := hi
  rw [← r.child_index i x]
  exact hR.child_used h hchild

/-! ### Subschemas -/

theorem filter_isObject (hR : Inherits R) {xs ys : List Json} (h : List.Forall₂ R xs ys) :
    List.Forall₂ R (xs.filter Json.isObject) (ys.filter Json.isObject) :=
  List.rel_filter (R := R) (fun _ _ ht => Bool.eq_iff_iff.mp (hR.twin ht).isObject_eq.symm) h

/-- What is made of the members of an object, if it makes nothing of the member that closes a
schema, is made of the members of its twin in step. -/
theorem members (hR : Inherits R) (h : R written used) {f g : String × Json → List Json}
    (hfg : ∀ k w u, R w u → List.Forall₂ R (f (k, w)) (g (k, u)))
    (hg : g ("additionalProperties", .bool false) = []) :
    List.Forall₂ R (written.members.flatMap f) (used.members.flatMap g) := by
  obtain ⟨r, hs, rfl⟩ := hR.twin h
  cases written with
  | obj ms =>
    have hm : List.Forall₂ R (ms.flatMap f) ((r.usedMembers ms).flatMap g) := by
      -- Before a schema is closed, its members are treated one by one.
      refine List.rel_flatMap (R := fun m n => n.1 = m.1 ∧ R m.2 n.2) ?_ ?_
      · rw [Role.usedMembers, List.forall₂_map_right_iff, List.forall₂_same]
        exact fun m hm => ⟨rfl, hR.child_used h (Json.child?_member hs hm)⟩
      · rintro ⟨k, w⟩ ⟨_, u⟩ ⟨rfl, hwu⟩
        exact hfg _ w u hwu
    rw [Role.used_obj]
    split
    · next ho =>
      -- The member that closes it stands somewhere between the others, and brings nothing.
      change List.Forall₂ R (ms.flatMap f) ((Json.insert _ _ (r.usedMembers ms)).flatMap g)
      rw [Json.flatMap_insert (Role.lookup_usedMembers_eq_none ho.2) hg]
      exact hm
    · exact hm
  | arr xs =>
    rw [Role.used_arr]
    exact .nil
  | _ =>
    rw [Role.used_scalar r rfl rfl]
    exact .nil

/-- The values of the members of twins that are objects are related. -/
theorem memberValues (hR : Inherits R) (h : R written used) :
    List.Forall₂ R ((written.members.map Prod.snd).filter Json.isObject)
      ((used.members.map Prod.snd).filter Json.isObject) := by
  have hf : ∀ ms : List (String × Json), (ms.map Prod.snd).filter Json.isObject =
      ms.flatMap fun m => [m.2].filter Json.isObject := fun ms => by
    rw [List.map_eq_flatMap, List.filter_flatMap]
  rw [hf, hf]
  exact hR.members h (fun k w u hwu => hR.filter_isObject (.cons hwu .nil)) rfl

/-- The subschemas that the values of a keyword bring for twins are related. -/
theorem memberSubschemas (hR : Inherits R) (d : Draft) (k : String) (h : R written used) :
    List.Forall₂ R ((d.memberSubschemas k written).filter Json.isObject)
      ((d.memberSubschemas k used).filter Json.isObject) := by
  have hself : List.Forall₂ R [written] [used] := .cons h .nil
  have hvalues := hR.memberValues h
  obtain ⟨r, _, hu⟩ := hR.twin h
  unfold Draft.memberSubschemas
  split
  -- What a draft takes the value of a keyword for: a schema, a list, a map, or one of two.
  · exact hR.filter_isObject hself
  split
  · refine hR.filter_isObject ?_
    cases written with
    | arr xs =>
      obtain ⟨ys, rfl, hxs⟩ := hR.items h
      exact hxs
    | obj ms =>
      rw [hu, Role.used_obj]
      exact .nil
    | _ =>
      rw [hu, Role.used_scalar r rfl rfl]
      exact .nil
  split
  · exact hvalues
  split
  · refine hR.filter_isObject ?_
    cases written with
    | arr xs =>
      obtain ⟨ys, rfl, hxs⟩ := hR.items h
      exact hxs
    | obj ms =>
      rw [hu, Role.used_obj] at hself ⊢
      exact hself
    | _ =>
      rw [hu, Role.used_scalar r rfl rfl] at hself ⊢
      exact hself
  split
  · exact hR.filter_isObject hvalues
  · exact .nil

/-- **Subschemas.** The subschemas of twins that are objects are related, one by one. -/
theorem subschemas (hR : Inherits R) (d : Draft) (h : R written used) :
    List.Forall₂ R ((d.subschemas written).filter Json.isObject)
      ((d.subschemas used).filter Json.isObject) := by
  unfold Draft.subschemas
  rw [List.filter_flatMap, List.filter_flatMap]
  refine hR.members h (fun k w u hwu => hR.memberSubschemas d k hwu) ?_
  cases d <;> rfl

/-! ### Pointers -/

/-- A key leads to related values, or to the member that closes a schema. -/
theorem get? (hR : Inherits R) (h : R written used) (key : String) :
    FoundTwin R (written.get? key) (used.get? key) := by
  obtain ⟨r, _, rfl⟩ := hR.twin h
  by_cases hkey : key ≠ "additionalProperties" ∨ (written.get? key).isSome
  · rw [r.get?_used hkey]
    cases hv : written.get? key with
    | none => exact .missing
    | some v =>
      cases written with
      | obj ms =>
        have hchild : (Json.obj ms).child? (.key key) = some v := hv
        exact .found (hR.child_used h hchild)
      | _ => exact nomatch hv
  · obtain ⟨hk, hn⟩ := not_or.mp hkey
    rw [not_not] at hk
    subst hk
    rw [Option.not_isSome_iff_eq_none] at hn
    rw [hn]
    rcases r.get?_used_additionalProperties hn with he | he
    · rw [he]
      exact .missing
    · rw [he]
      exact .closing

end Inherits

/-- An index leads to related values. -/
theorem getElem?_twin {R : Json → Json → Prop} {xs ys : List Json} (h : List.Forall₂ R xs ys)
    (i : Nat) : FoundTwin R xs[i]? ys[i]? := by
  induction h generalizing i with
  | nil => exact .missing
  | cons hxy _ ih =>
    cases i with
    | zero => exact .found hxy
    | succ i => exact ih i

/-- The value that one step of a pointer leads to. -/
def segment? (j : Json) (segment : List Char) : Option Json :=
  match j with
  | .arr xs => (Json.Pointer.toIndex? segment).bind fun i => xs[i]?
  | j => j.get? (String.ofList (Json.Pointer.unescape segment))

theorem valueAt?_cons (j : Json) (segment : List Char) (rest : List (List Char)) :
    valueAt? j (segment :: rest) = (segment? j segment).bind fun v => valueAt? v rest := by
  cases j with
  | arr xs =>
    rw [valueAt?, segment?]
    cases (Json.Pointer.toIndex? segment).bind fun i => xs[i]? <;> rfl
  | obj ms =>
    simp only [valueAt?, segment?]
    cases (Json.obj ms).get? (String.ofList (Json.Pointer.unescape segment)) <;> rfl
  | _ => rfl

namespace Inherits

variable {R : Json → Json → Prop} {written used : Json}

theorem segment? (hR : Inherits R) (h : R written used) (segment : List Char) :
    FoundTwin R (Schema.segment? written segment) (Schema.segment? used segment) := by
  have hkey := hR.get? h (String.ofList (Json.Pointer.unescape segment))
  obtain ⟨r, _, hu⟩ := hR.twin h
  cases written with
  | arr xs =>
    obtain ⟨ys, rfl, hxs⟩ := hR.items h
    unfold Schema.segment?
    cases Json.Pointer.toIndex? segment with
    | none => exact .missing
    | some i => exact getElem?_twin hxs i
  | obj ms =>
    rw [hu, Role.used_obj] at hkey ⊢
    exact hkey
  | _ =>
    rw [hu, Role.used_scalar r rfl rfl]
    exact .missing

/-- **Pointers.** A pointer leads to related values, or to the member that closes a schema. -/
theorem valueAt? (hR : Inherits R) (h : R written used) (path : List (List Char)) :
    FoundTwin R (Schema.valueAt? written path) (Schema.valueAt? used path) := by
  induction path generalizing written used with
  | nil => exact .found h
  | cons s rest ih =>
    rw [valueAt?_cons, valueAt?_cons]
    refine FoundTwin.elim (hR.segment? h s) .missing ?_ fun w u ht => ih ht
    -- Nothing stands below the value `false`.
    cases rest with
    | nil => exact .closing
    | cons s rest => exact .missing

theorem fragmentValue? (hR : Inherits R) (h : R written used) (fragment : List Char) :
    FoundTwin R (Schema.fragmentValue? written fragment) (Schema.fragmentValue? used fragment) := by
  unfold Schema.fragmentValue?
  split
  · exact .found h
  · exact hR.valueAt? h _
  · exact .missing

end Inherits

end DocCheck.Schema
