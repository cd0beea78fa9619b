import DocCheck.Proofs.Schema.Tree
import DocCheck.Proofs.Tighten.Build

/-!
# Places that a schema reaches

From the root of a schema, keywords lead to subschemas and references to schemas elsewhere. The
same steps lead through a schema as it was written and through what is used in its stead, and what
they reach in both stands at the same position of what was read.

* `Place` — what the same steps reach in the written schema and in the used one, and its position;
* `Place.Subschema`, `Place.Refers` — the subschemas and the references at a place;
* `Reached` — the places that keywords and references lead to, in any number of steps;
* `Reached.sound` — what is reached is what stands at its position;
* `Reached.exists_keyword`, `Reached.exists_reference` — each step through the written schema is a
  step through the used one.
-/

namespace DocCheck.Schema

open Json (lookup)

/-- What the same steps reach in a schema as it was written and in what is used in its stead. -/
structure Place where
  /-- The scope inside the value. -/
  scope : Scope
  /-- Where the value stands. -/
  position : Position
  /-- The value as it was written. -/
  written : Json
  /-- The value that is used. -/
  used : Json

namespace Place

/-- The written schema in its scope. -/
def source (p : Place) : Target := ⟨p.scope, p.written⟩

/-- The used schema in its scope. -/
def target (p : Place) : Target := ⟨p.scope, p.used⟩

/-- The values of a place stand at its position. -/
def Sound (p : Place) : Prop := p.position.Holds p.written p.used

/-- Whether a reference hides everything beside it. -/
def isHidden (p : Place) : Bool :=
  p.scope.draft.referenceHidesSiblings && (p.written.get? "$ref").isSome

/-- The root of a tightened schema. -/
def root (scope : Scope) (schema : Json) : Place :=
  ⟨scope, .root schema, schema, tighten schema⟩

theorem sound_root (scope : Scope) {schema : Json} (hs : schema.SortedKeys) :
    (root scope schema).Sound :=
  Position.holds_root hs

end Place

/-! ### Steps -/

/-- The keywords through which a draft applies subschemas. -/
def Draft.applies (d : Draft) (keyword : String) : Bool :=
  match keyword with
  | "properties" | "patternProperties" | "additionalProperties" | "items" | "allOf" | "anyOf"
  | "oneOf" | "not" | "dependencies" => true
  | "propertyNames" | "contains" => d.atLeast .draft6
  | "if" | "then" | "else" => d.atLeast .draft7
  | "additionalItems" => d != .draft2020
  | "prefixItems" => d == .draft2020
  | "dependentSchemas" | "unevaluatedProperties" | "unevaluatedItems" => d.atLeast .draft2019
  | _ => false

/-- Whether a keyword is read at a place, and applies subschemas. -/
def Place.reads (p : Place) (keyword : String) : Bool :=
  !p.isHidden && p.scope.vocabularies.has p.scope.draft keyword && p.scope.draft.applies keyword

/-- Whether steps lead from the value of a keyword to a subschema in it. -/
def leadsToSubschema (keyword : String) (steps : List Json.Step) : Bool :=
  match Holding.ofKeyword keyword, steps with
  | .direct, [] | .direct, [.index _] | .named, [.key _] => true
  | _, _ => false

/-- The subschemas in the value of a keyword that is read. -/
inductive Place.Subschema (p : Place) (k : String) : Place → Prop where
  /-- What some steps lead to, in the written schema and in the used one. -/
  | steps {steps : List Json.Step} {w u : Json} {scope : Scope} (hk : p.reads k)
    (hsteps : leadsToSubschema k steps) (hw : p.written.at? (.key k :: steps) = some w)
    (hu : p.used.at? (.key k :: steps) = some u) (hs : p.scope.inside w = .ok scope) :
    Subschema p k ⟨scope, p.position.below (.key k :: steps), w, u⟩

/-- The references that stand at a place. -/
inductive Place.Refers (p : Place) : Reference → Prop where
  /-- A plain reference. -/
  | plain {text : String} (h : p.written.get? "$ref" = some (.str text)) :
    Refers p ⟨p.scope, "$ref", some text⟩
  /-- A dynamic reference. -/
  | dynamic {text : String} (hd : p.scope.draft = .draft2020)
    (h : p.written.get? "$dynamicRef" = some (.str text)) :
    Refers p ⟨p.scope, "$dynamicRef", some text⟩
  /-- A recursive reference. -/
  | recursive (hd : p.scope.draft = .draft2019) (h : (p.written.get? "$recursiveRef").isSome) :
    Refers p ⟨p.scope, "$recursiveRef", none⟩

/-- **Reached places.** The places that keywords and references lead to from the root of a schema,
in any number of steps. `written` is the store of what the schema refers to, `used` the store of
what became of that, and the atlas says where the schemas in both stand. -/
inductive Reached (a : Atlas) (written used : Store) (root : Place) : Place → Prop where
  /-- The root. -/
  | root : Reached a written used root root
  /-- A subschema in the value of a keyword. -/
  | keyword {p q : Place} {k : String} (hp : Reached a written used root p) (hq : p.Subschema k q) :
    Reached a written used root q
  /-- What a reference means, which stands where the reference says. -/
  | reference {p : Place} {r : Reference} {scope : Scope} {position : Position} {w u : Json}
    (hp : Reached a written used root p) (hr : p.Refers r)
    (hw : written.target r = .ok (some ⟨scope, w⟩)) (hu : used.target r = .ok (some ⟨scope, u⟩))
    (hposition : Means a written r position) :
    Reached a written used root ⟨scope, position, w, u⟩

/-! ### The used schema -/

/-- The scope inside twins is the same. -/
theorem inside_twin (scope : Scope) {written used : Json} (h : Twin written used) :
    scope.inside used = scope.inside written := by
  have hd : scope.draft.detect used = scope.draft.detect written := by
    obtain ⟨r, _, rfl⟩ := h
    exact r.detect_used _ written
  have hr : ResourceTwin Twin ⟨(scope.draft.detect written).toOption.getD .latest, written⟩
      ⟨(scope.draft.detect written).toOption.getD .latest, used⟩ := ⟨rfl, h⟩
  unfold Scope.inside
  rw [hd, enter_twin scope hr]

namespace Reached

variable {a : Atlas} {s : Sources} {written used : Store} {root p : Place}

/-- **Positions.** What is reached is what stands at its position. -/
theorem sound (ha : a.Charts s written used) (hroot : root.Sound)
    (h : Reached a written used root p) : p.Sound := by
  induction h with
  | root => exact hroot
  | keyword _ hq ih =>
    obtain ⟨_, _, hw, hu, _⟩ := hq
    exact Position.Holds.below ih hw hu
  | @reference p r scope position w u _ _ hw hu hposition _ =>
    obtain ⟨hn, _⟩ | ⟨_, _, position', u', ht, hposition', hholds, hu'⟩ := target_leads ha r hw
    · cases hn
    · cases ht
      cases hu.symm.trans hu'
      rw [hposition.unique hposition']
      exact hholds

/-- **Keywords.** Where a keyword leads in the written schema it leads in the used one, and the
scope inside is the same. -/
theorem exists_keyword (ha : a.Charts s written used) (hroot : root.Sound)
    (h : Reached a written used root p) {k : String} (hk : p.reads k) {steps : List Json.Step}
    (hsteps : leadsToSubschema k steps) {w : Json}
    (hw : p.written.at? (.key k :: steps) = some w) {scope : Scope}
    (hs : p.scope.inside w = .ok scope) :
    ∃ u, p.used.at? (.key k :: steps) = some u ∧ p.scope.inside u = .ok scope ∧
      Reached a written used root ⟨scope, p.position.below (.key k :: steps), w, u⟩ := by
  obtain ⟨u, hu, hholds⟩ := Position.Holds.exists_below (h.sound ha hroot) hw
  exact ⟨u, hu, (inside_twin p.scope hholds.twin).trans hs, .keyword h (.steps hk hsteps hw hu hs)⟩

/-- **References.** What a reference means among the written schemas stands where it says, and what
stands there then is what it means among the used ones. -/
theorem exists_reference (ha : a.Charts s written used) (h : Reached a written used root p)
    {r : Reference} (hr : p.Refers r) {scope : Scope} {w : Json}
    (hw : written.target r = .ok (some ⟨scope, w⟩)) :
    ∃ position u, Means a written r position ∧ used.target r = .ok (some ⟨scope, u⟩) ∧
      Reached a written used root ⟨scope, position, w, u⟩ := by
  obtain ⟨hn, _⟩ | ⟨_, _, position, u, ht, hposition, _, hu⟩ := target_leads ha r hw
  · cases hn
  · cases ht
    exact ⟨position, u, hposition, hu, .reference h hr hw hu hposition⟩

end Reached

end DocCheck.Schema
