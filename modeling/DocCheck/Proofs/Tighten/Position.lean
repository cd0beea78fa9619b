import DocCheck.Proofs.Tighten.Effect

/-!
# Positions in what is read

What tightening makes of a value depends on where the value stands: in a document that is tightened
as a whole, or in one that is not, and in which place of it. URIs and anchors name such positions,
whatever the values there are.

* `Position`, `Position.role` — places in documents, and how tightening treats them;
* `Position.IsSchema`, `Position.IsMap` — the places of subschemas and of maps of them;
* `Position.Holds` — what stands at a position as it was written and as it is used;
* `Sources`, `Sources.Names`, `Sources.Sets` — what a URI and an anchor may stand for.
-/

namespace DocCheck.Schema

/-- A place in a document, and whether the document is tightened before it is used. -/
structure Position where
  /-- The document as it was written. -/
  document : Json
  /-- Whether it is tightened. -/
  isTightened : Bool
  /-- The way from its root to the place. -/
  path : List Json.Step

namespace Position

/-- The role of the whole document. -/
def whole (p : Position) : Role := if p.isTightened then .schema else .data

/-- How tightening treats what stands at a position. -/
def role (p : Position) : Role := p.whole.along p.document p.path

/-- The position that further steps lead to. -/
def below (p : Position) (steps : List Json.Step) : Position := { p with path := p.path ++ steps }

/-- The position of a subschema in a document that is tightened. -/
def IsSchema (p : Position) : Prop :=
  p.isTightened = true ∧ ∃ v, SubschemaAt p.document p.path v

/-- The position of a map of schemas in a document that is tightened. -/
def IsMap (p : Position) : Prop :=
  p.isTightened = true ∧ ∃ before ms k, p.path = before ++ [.key k] ∧
    SubschemaAt p.document before (.obj ms) ∧
    k ∈ ["properties", "patternProperties", "definitions", "$defs", "dependentSchemas",
      "dependencies"]

/-- What stands at a position, as it was written and as it is used. -/
structure Holds (p : Position) (written used : Json) : Prop where
  /-- The members of the document are in order. -/
  sorted : p.document.SortedKeys
  /-- What stands there as it was written. -/
  at?_written : p.document.at? p.path = some written
  /-- What stands there as it is used. -/
  at?_used : (p.whole.used p.document).at? p.path = some used

variable {p : Position} {written used : Json}

theorem below_below (p : Position) (steps rest : List Json.Step) :
    (p.below steps).below rest = p.below (steps ++ rest) := by
  unfold below
  rw [List.append_assoc]

namespace Holds

/-- **Roles.** What is used at a position is what its role says. -/
theorem used_eq (h : p.Holds written used) : used = p.role.used written := by
  have hu := p.whole.at?_used h.at?_written
  rw [h.at?_used] at hu
  exact Option.some.inj hu

theorem twin (h : p.Holds written used) : Twin written used :=
  ⟨p.role, h.sorted.at? h.at?_written, h.used_eq⟩

/-- What the same steps lead to from a position stands below it. -/
theorem below (h : p.Holds written used) {steps : List Json.Step} {w u : Json}
    (hw : written.at? steps = some w) (hu : used.at? steps = some u) :
    (p.below steps).Holds w u where
  sorted := h.sorted
  at?_written := by
    change p.document.at? (p.path ++ steps) = some w
    rw [Json.at?_append, h.at?_written, Option.bind_some, hw]
  at?_used := by
    change (p.whole.used p.document).at? (p.path ++ steps) = some u
    rw [Json.at?_append, h.at?_used, Option.bind_some, hu]

/-- Steps that lead from what was written lead from what is used. -/
theorem exists_below (h : p.Holds written used) {steps : List Json.Step} {w : Json}
    (hw : written.at? steps = some w) :
    ∃ u, used.at? steps = some u ∧ (p.below steps).Holds w u := by
  have hu := p.role.at?_used hw
  rw [← h.used_eq] at hu
  exact ⟨_, hu, h.below hw hu⟩

theorem role_below (h : p.Holds written used) (steps : List Json.Step) :
    (p.below steps).role = p.role.along written steps :=
  p.whole.along_append h.at?_written steps

theorem exists_child (h : p.Holds written used) {s : Json.Step} {w : Json}
    (hw : written.child? s = some w) :
    ∃ u, used.child? s = some u ∧ (p.below [s]).Holds w u := by
  rw [← Json.at?_singleton] at hw
  obtain ⟨u, hu, hbelow⟩ := h.exists_below hw
  rw [Json.at?_singleton] at hu
  exact ⟨u, hu, hbelow⟩

/-- Tightening treats as schemas what stands at the positions of subschemas. -/
theorem isSchema_iff (h : p.Holds written used) : p.IsSchema ↔ p.role = .schema := by
  unfold IsSchema role whole
  cases p.isTightened with
  | true =>
    simp only [true_and, if_true]
    constructor
    · exact fun ⟨_, hv⟩ => hv.sound.2
    · exact fun hrole => ⟨written, subschemaAt_iff.mpr ⟨h.at?_written, hrole⟩⟩
  -- In a document that is not tightened there are only data.
  | false => simp [Role.along_data]

/-- Tightening treats as maps of schemas only what stands at the positions of such maps. -/
theorem isMap (h : p.Holds written used) (hrole : p.role = .named) : p.IsMap := by
  unfold role whole at hrole
  cases ht : p.isTightened with
  | true =>
    rw [ht, if_pos rfl] at hrole
    have hfits := Role.fits_along h.at?_written
    rw [hrole] at hfits
    obtain ⟨before, ms, k, hpath, hbefore, hk, _⟩ := hfits
    exact ⟨ht, before, ms, k, hpath, hbefore, hk⟩
  | false =>
    rw [ht, if_neg Bool.false_ne_true, Role.along_data] at hrole
    cases hrole

end Holds

/-- The root of a document that is tightened. -/
def root (document : Json) : Position := ⟨document, true, []⟩

theorem holds_root {document : Json} (hs : document.SortedKeys) :
    (root document).Holds document (tighten document) :=
  ⟨hs, rfl, rfl⟩

end Position

/-! ### What URIs and anchors stand for -/

/-- What is read for a schema, all as it was written. -/
structure Sources where
  /-- The base of the schema. -/
  base : String
  /-- The schema. -/
  schema : Json
  /-- How the schemas of URIs are read. -/
  retrieve : Retrieve

namespace Sources

/-- The positions in the documents that are read, which are tightened. -/
inductive Has (s : Sources) : Position → Prop where
  /-- In the schema. -/
  | schema (path : List Json.Step) : s.Has ((Position.root s.schema).below path)
  /-- In the schema of a URI. -/
  | file {uri : String} {document : Json} (h : s.retrieve uri = .ok document)
    (path : List Json.Step) : s.Has ((Position.root document).below path)

/-- **URIs.** The position of the schema that a URI may stand for. -/
inductive Names (s : Sources) : String → Position → Prop where
  /-- The base stands for the schema. -/
  | schema : s.Names s.base (.root s.schema)
  /-- A URI stands for the schema that is read for it. -/
  | file {uri : String} {document : Json} (h : s.retrieve uri = .ok document) :
    s.Names uri (.root document)
  /-- The URI of a meta-schema stands for it. No meta-schema is tightened. -/
  | metaSchema {r : Resource} {uri : String} (hr : r ∈ Store.metaSchemas) (h : r.id? = some uri) :
    s.Names uri ⟨r.schema, false, []⟩
  /-- The name that a schema gives itself stands for it. -/
  | itself {p : Position} {d : Draft} {v : Json} {base id uri : String} (hp : s.Has p)
    (hv : p.document.at? p.path = some v) (hid : d.id? v = some id)
    (h : Uri.resolve base id = .ok uri) : s.Names uri p

/-- **Anchors.** The position of the schema that an anchor may stand for. -/
inductive Sets (s : Sources) (anchor : Draft.Anchor) : Position → Prop where
  /-- A schema in the documents that are read sets it. -/
  | schema {p : Position} {d : Draft} {v : Json} (hp : s.Has p)
    (hv : p.document.at? p.path = some v) (h : anchor ∈ d.anchors v) : s.Sets anchor p
  /-- A meta-schema sets it. -/
  | metaSchema {r : Resource} (hr : r ∈ Store.metaSchemas) (h : anchor ∈ r.draft.anchors r.schema) :
    s.Sets anchor ⟨r.schema, false, []⟩

theorem Has.below {s : Sources} {p : Position} (h : s.Has p) (steps : List Json.Step) :
    s.Has (p.below steps) := by
  cases h with
  | schema path =>
    rw [Position.below_below]
    exact .schema _
  | file h path =>
    rw [Position.below_below]
    exact .file h _

/-- No schema in the documents that are read gives itself a name. -/
def Unnamed (s : Sources) : Prop :=
  ∀ p, s.Has p → ∀ v, p.document.at? p.path = some v → ∀ d : Draft, d.id? v = none

/-- Whether a value has none of the keywords by which schemas give themselves names. -/
def isUnnamed (v : Json) : Bool := (v.get? "id").isNone && (v.get? "$id").isNone

/-- No schema gives itself a name where no value has a keyword for it. -/
theorem unnamed_of_everywhere {s : Sources} (hschema : s.schema.everywhere isUnnamed)
    (hfile : ∀ {uri : String} {document : Json}, s.retrieve uri = .ok document →
      document.everywhere isUnnamed) : s.Unnamed := by
  intro p hp v hv d
  have hdocument : p.document.everywhere isUnnamed := by
    cases hp with
    | schema => exact hschema
    | file h => exact hfile h
  have htest := Json.test_at? hdocument hv
  unfold isUnnamed at htest
  rw [Bool.and_eq_true, Option.isNone_iff_eq_none, Option.isNone_iff_eq_none] at htest
  have hkey : v.get? d.idKeyword = none := by
    unfold Draft.idKeyword
    split
    · exact htest.1
    · exact htest.2
  unfold Draft.id?
  rw [hkey]
  rfl

/-- Where no schema gives itself a name, a URI stands for the root of what is read: the base for the
schema, others for what is read for them. Those of meta-schemas stand for these. -/
theorem Names.of_unnamed {s : Sources} (hs : s.Unnamed) {uri : String} {p : Position}
    (h : s.Names uri p) :
    uri = s.base ∧ p = .root s.schema ∨
      (∃ document, s.retrieve uri = .ok document ∧ p = .root document) ∨
      ∃ r ∈ Store.metaSchemas, p = ⟨r.schema, false, []⟩ := by
  cases h with
  | schema => exact .inl ⟨rfl, rfl⟩
  | file h => exact .inr (.inl ⟨_, h, rfl⟩)
  | metaSchema hr => exact .inr (.inr ⟨_, hr, rfl⟩)
  | itself hp hv hid _ =>
    rw [hs _ hp _ hv] at hid
    cases hid

/-- Values that stand at the same position of a document that is read. -/
def Held (s : Sources) (written used : Json) : Prop :=
  ∃ p : Position, s.Has p ∧ p.Holds written used

theorem held_inherits (s : Sources) : Inherits s.Held where
  twin := fun ⟨_, _, h⟩ => h.twin
  child := by
    rintro written used w u step ⟨p, hp, h⟩ hw hu
    rw [← Json.at?_singleton] at hw hu
    exact ⟨p.below [step], hp.below _, h.below hw hu⟩

end Sources

end DocCheck.Schema
