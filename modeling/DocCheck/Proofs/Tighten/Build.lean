import DocCheck.Proofs.Json.Sorted
import DocCheck.Proofs.Tighten.Lookup
import DocCheck.Validator

/-!
# Building twins

A validator with tight strictness is built from the tightened schema and from tightened files. What
is gathered for it is the twin of what is gathered for the schema as it was written, whether or not
that schema is usable itself.

* `Gathered` — what is known of a schema once everything it refers to has been read;
* `retrieveTwin` — strictness decides only whether what is read is tightened;
* `Gathered.twin` — what is gathered tightly is the twin of what is gathered loosely;
* `programs_twin` — so are the programs, where both exist.
-/

namespace DocCheck.Schema

/-- What is known of a schema once everything it refers to has been read: its draft, its base, the
store and the scope at its root. -/
structure Gathered (retrieve : Retrieve) (schema : Json) (d : Draft) (base : String)
    (store : Store) (scope : Scope) : Prop where
  /-- The draft that the schema is written for. -/
  draft_eq : (Program.draftOf retrieve schema).2 = .ok d
  /-- The base that it has. -/
  base_eq : Collection.baseInside Uri.rootBase ⟨d, schema⟩ = .ok base
  /-- All that it refers to. -/
  store_eq : (collect retrieve base ⟨d, schema⟩).2 = .ok store
  /-- The scope at its root. -/
  scope_eq : Program.rootScope store base ⟨d, schema⟩ = .ok scope

/-- A program has the store that it was made of, and the schema at its root. -/
theorem scope_of_ofStore {store : Store} {base : String} {r : Resource} {p : Program}
    (h : Program.ofStore store base r = .ok p) :
    Program.rootScope store base r = .ok p.root.scope ∧ p.store = store ∧
      p.root.schema = r.schema := by
  unfold Program.ofStore at h
  split at h
  · cases h
  · split at h
    · cases h
    · next scope hs =>
      dsimp only at h
      split at h
      · cases h
        exact ⟨hs, rfl, rfl⟩
      · cases h

/-- Everything has been gathered for a program. -/
theorem gathered_of_build {retrieve : Retrieve} {schema : Json} {p : Program}
    (h : (Program.build retrieve schema).2 = .ok p) :
    (∃ d base, Gathered retrieve schema d base p.store p.root.scope) ∧ p.root.schema = schema := by
  unfold Program.build at h
  cases hd : Program.draftOf retrieve schema with
  | mk read draft =>
    rw [hd] at h
    cases draft with
    | error e => cases h
    | ok d =>
      change (Program.ofResource retrieve ⟨d, schema⟩).2 = .ok p at h
      unfold Program.ofResource at h
      cases hb : Collection.baseInside Uri.rootBase ⟨d, schema⟩ with
      | error e =>
        rw [hb] at h
        cases h
      | ok base =>
        simp only [hb] at h
        cases hc : collect retrieve base ⟨d, schema⟩ with
        | mk read' store =>
          rw [hc] at h
          cases store with
          | error e => cases h
          | ok store =>
            obtain ⟨hscope, hstore, hroot⟩ := scope_of_ofStore h
            subst hstore
            exact ⟨⟨d, base, by rw [hd], hb, by rw [hc], hscope⟩, hroot⟩

/-! ### Strictness -/

/-- **Strictness.** From the same files the same schemas are read, loosely as they are written and
tightly tightened. -/
theorem retrieveTwin (files : Files) (path : String) :
    RetrieveTwin (SchemaDir.retrieve ⟨files, path, .loose⟩)
      (SchemaDir.retrieve ⟨files, path, .tight⟩) := by
  intro uri
  unfold SchemaDir.retrieve SchemaDir.pathOf?
  cases SchemaDir.fileName? uri with
  | none => exact .error _
  | some name =>
    simp only [Option.map_some]
    cases files.read (Path.join path name) with
    | error e => exact .error _
    | ok text =>
      dsimp only
      cases hr : Json.read text with
      | error e => exact .error _
      | ok schema => exact .ok ⟨Json.read_sortedKeys hr, rfl⟩

/-- Twins are written for the same draft, whatever meta-schema they name. -/
theorem draftOf_twin {rw ru : Retrieve} (hr : RetrieveTwin rw ru) {written used : Json}
    (h : Twin written used) : Program.draftOf ru used = Program.draftOf rw written := by
  have hd : ∀ {w u : Json}, Twin w u → Draft.latest.detect u = Draft.latest.detect w := by
    rintro w _ ⟨r, _, rfl⟩
    exact r.detect_used _ w
  unfold Program.draftOf
  rw [hd h]
  cases Draft.latest.detect written with
  | ok d => rfl
  | error uri =>
    dsimp only
    cases Uri.resolve Uri.rootBase uri with
    | error e => rfl
    | ok target =>
      dsimp only
      refine Alike.elim (hr target) (fun _ => rfl) ?_
      rintro w _ ⟨hs, rfl⟩
      dsimp only
      rw [hd (twin_tighten hs)]

theorem rootScope_twin {a : Atlas} {s : Sources} {stw stu : Store} (h : a.Charts s stw stu)
    (base : String) {rw ru : Resource} (hr : ResourceTwin Twin rw ru) :
    Program.rootScope stu base ru = Program.rootScope stw base rw := by
  unfold Program.rootScope
  rw [hr.draft, vocabularies_twin h _ hr.schema, enter_twin _ hr]

/-- **Gathering.** What is gathered for a tightened schema from tightened files stands at the same
positions as what is gathered for the schema as it was written. -/
theorem Gathered.twin {rw ru : Retrieve} (hr : RetrieveTwin rw ru) {schema : Json}
    (hs : schema.SortedKeys) {d : Draft} {base : String} {used : Store} {scope : Scope}
    (h : Gathered ru (tighten schema) d base used scope) :
    ∃ written, Gathered rw schema d base written scope ∧
      StoreTwin ⟨base, schema, rw⟩ written used := by
  -- Only the store tells of a failure; draft, base and scope are found in the same way.
  have ht : Twin schema (tighten schema) := twin_tighten hs
  have hres : ResourceTwin Twin ⟨d, schema⟩ ⟨d, tighten schema⟩ := ⟨rfl, ht⟩
  have hstore := (collect_twin (s := ⟨base, schema, rw⟩) hr hs d).2
  rw [h.store_eq] at hstore
  change Alike _ (collect rw base ⟨d, schema⟩).2 _ at hstore
  cases hw : (collect rw base ⟨d, schema⟩).2 with
  | error e =>
    rw [hw] at hstore
    cases hstore
  | ok written =>
    rw [hw] at hstore
    cases hstore with
    | ok hst =>
      obtain ⟨a, ha⟩ := hst.exists_atlas
      refine ⟨written, ⟨?_, ?_, hw, ?_⟩, hst⟩
      · rw [← draftOf_twin hr ht]
        exact h.draft_eq
      · rw [← baseInside_twin Uri.rootBase hres]
        exact h.base_eq
      · rw [← rootScope_twin ha base hres]
        exact h.scope_eq

theorem enter_vocabularies {scope inner : Scope} {r : Resource} (h : scope.enter r = .ok inner) :
    inner.vocabularies = scope.vocabularies := by
  unfold Scope.enter at h
  split at h
  · cases h
    rfl
  · split at h
    · cases h
    · cases h
      unfold Scope.moveTo
      split <;> rfl

/-- A schema that names one of the drafts, or none, is read with all groups of keywords. -/
theorem Gathered.vocabularies_eq_full {retrieve : Retrieve} {schema : Json} {d : Draft}
    {base : String} {store : Store} {scope : Scope} (h : Gathered retrieve schema d base store scope)
    (hdraft : (Draft.latest.detect schema).isOk) : scope.vocabularies = .full := by
  have hfull : store.vocabularies d schema = .full := by
    unfold Store.vocabularies Draft.detect
    unfold Draft.detect at hdraft
    cases hname : (schema.get? "$schema").bind Json.text? with
    | none => rfl
    | some uri =>
      rw [hname] at hdraft
      dsimp only at hdraft ⊢
      cases hknown : Draft.ofUri? uri with
      | none =>
        rw [hknown] at hdraft
        exact Bool.noConfusion hdraft
      | some d => rfl
  exact (enter_vocabularies h.scope_eq).trans hfull

theorem Gathered.unique {retrieve : Retrieve} {schema : Json} {d d' : Draft} {base base' : String}
    {store store' : Store} {scope scope' : Scope} (h : Gathered retrieve schema d base store scope)
    (h' : Gathered retrieve schema d' base' store' scope') : store' = store ∧ scope' = scope := by
  obtain rfl : d' = d := Except.ok.inj (h'.draft_eq.symm.trans h.draft_eq)
  obtain rfl : base' = base := Except.ok.inj (h'.base_eq.symm.trans h.base_eq)
  obtain rfl : store' = store := Except.ok.inj (h'.store_eq.symm.trans h.store_eq)
  exact ⟨rfl, Except.ok.inj (h'.scope_eq.symm.trans h.scope_eq)⟩

/-! ### Validators -/

/-- A directory with no files. -/
def noFiles : Files := ⟨fun _ => .error .notFound⟩

/-- The program of a validator is what was built. -/
theorem build_of_compile {kind : Kind} {schema : Json} {source : String} {dir : SchemaDir}
    {v : Validator} (h : (Validator.compile kind schema source dir).result = .ok v) :
    (Program.build dir.retrieve (dir.strictness.apply schema)).2 = .ok v.program := by
  unfold Validator.compile at h
  split at h
  · next read program hb =>
    cases h
    rw [hb]
  · cases h

theorem exists_of_isOk {kind : Kind} {schema : Json} {source : String} {dir : SchemaDir}
    (h : (Validator.compile kind schema source dir).result.isOk = true) :
    ∃ v, (Validator.compile kind schema source dir).result = .ok v := by
  cases hr : (Validator.compile kind schema source dir).result with
  | error e =>
    rw [hr] at h
    exact nomatch h
  | ok v => exact ⟨v, rfl⟩

/-- A validator exists of which something is known. -/
theorem exists_of_toOption {kind : Kind} {schema : Json} {source : String} {dir : SchemaDir}
    {α : Type} {f : Validator → α} {a : α}
    (h : (Validator.compile kind schema source dir).result.toOption.map f = some a) :
    ∃ v, (Validator.compile kind schema source dir).result = .ok v ∧ f v = a := by
  cases hr : (Validator.compile kind schema source dir).result with
  | error e =>
    rw [hr] at h
    exact nomatch h
  | ok v =>
    rw [hr] at h
    exact ⟨v, rfl, Option.some.inj h⟩

/-- **Tight validators.** A tight validator has the tightened schema at its root, in the scope that
the schema has as it was written, and the twin of the store that is collected for it. -/
theorem gathered_of_tight {files : Files} {path : String} {kind : Kind} {schema : Json}
    (hs : schema.SortedKeys) {source : String} {v : Validator}
    (h : (Validator.compile kind schema source ⟨files, path, .tight⟩).result = .ok v) :
    v.program.root.schema = tighten schema ∧ ∃ d base written,
      Gathered (SchemaDir.retrieve ⟨files, path, .loose⟩) schema d base written
        v.program.root.scope ∧
      StoreTwin ⟨base, schema, SchemaDir.retrieve ⟨files, path, .loose⟩⟩ written
        v.program.store := by
  obtain ⟨⟨d, base, hg⟩, hroot⟩ := gathered_of_build (build_of_compile h)
  obtain ⟨written, hw, hst⟩ := Gathered.twin (retrieveTwin files path) hs hg
  exact ⟨hroot, d, base, written, hw, hst⟩

/-- **Both validators.** Where a schema has validators of both strictnesses, their stores hold what
stands at the same positions and their schemas are read in the same scope. -/
theorem programs_twin {files : Files} {path : String} {kind : Kind} {schema : Json}
    (hs : schema.SortedKeys) {source : String} {loose tight : Validator}
    (hl : (Validator.compile kind schema source ⟨files, path, .loose⟩).result = .ok loose)
    (ht : (Validator.compile kind schema source ⟨files, path, .tight⟩).result = .ok tight) :
    ∃ base scope, StoreTwin ⟨base, schema, SchemaDir.retrieve ⟨files, path, .loose⟩⟩
        loose.program.store tight.program.store ∧
      loose.program.root = ⟨scope, schema⟩ ∧ tight.program.root = ⟨scope, tighten schema⟩ := by
  obtain ⟨htight, d, base, written, hw, hst⟩ := gathered_of_tight hs ht
  obtain ⟨⟨d', base', hg⟩, hloose⟩ := gathered_of_build (build_of_compile hl)
  -- What the loose validator was made of is what the tight one has a twin of.
  obtain ⟨hstore, hscope⟩ := hw.unique hg
  rw [hstore]
  refine ⟨base, tight.program.root.scope, hst, ?_, ?_⟩
  · rw [← hscope]
    exact congrArg (Target.mk _) hloose
  · exact congrArg (Target.mk _) htight

end DocCheck.Schema
