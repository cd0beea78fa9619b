import DocCheck.Proofs.Path
import DocCheck.Proofs.Tighten.Directory
import DocCheck.ValidatorSet

/-!
# Loading validators

What is read while validators are loaded, and what a set of validators holds once they are.

* `SameDir` — two file systems with the same files in one directory;
* `SameDir.load_eq` — loading reads nothing outside the version directory;
* `ValidatorSet.load_eq_error_iff` — loading a set fails for the first kind that fails;
* `ValidatorSet.get?_of_load` — a set that was loaded has the validator of each of its kinds, and
  of no other (`ValidatorSet.get?_of_load_of_not_mem`).
-/

namespace DocCheck

/-! ### What is read -/

/-- A file name is put behind its directory and a slash, unless a slash is not needed. -/
theorem IsFileName.join_eq {name : String} (h : IsFileName name) (dir : String) :
    Path.join dir name =
      if dir.toList.getLast?.all (· == '/') then dir ++ name else dir ++ "/" ++ name :=
  Path.join_of_not_mem h.2.2 dir

/-- In the directory `dir`, two file systems have the same files. -/
def SameDir (dir : String) (files files' : Files) : Prop :=
  ∀ name, IsFileName name → files.read (Path.join dir name) = files'.read (Path.join dir name)

namespace SameDir

variable {dir : String} {files files' : Files}

/-- Schemas are looked up in the directory only. -/
theorem retrieve_eq (h : SameDir dir files files') (st : Strictness) :
    SchemaDir.retrieve ⟨files, dir, st⟩ = SchemaDir.retrieve ⟨files', dir, st⟩ := by
  funext uri
  unfold SchemaDir.retrieve SchemaDir.pathOf?
  cases hname : SchemaDir.fileName? uri with
  | none => rfl
  | some name =>
    simp only [Option.map_some]
    rw [h name (isFileName_of_fileName? hname)]

theorem compile_eq (h : SameDir dir files files') (kind : Kind) (schema : Json) (source : String)
    (st : Strictness) :
    Validator.compile kind schema source ⟨files, dir, st⟩ =
      Validator.compile kind schema source ⟨files', dir, st⟩ := by
  have hevent : SchemaDir.event ⟨files, dir, st⟩ = SchemaDir.event ⟨files', dir, st⟩ := rfl
  unfold Validator.compile
  rw [h.retrieve_eq st, hevent]

/-- **The version directory.** Loading a validator reads nothing outside it. -/
theorem load_eq {config : Config} (h : SameDir config.versionDir files files') (st : Strictness)
    (kind : Kind) : Validator.load files config st kind = Validator.load files' config st kind := by
  have hread : Validator.readSchema files kind (Path.join config.versionDir kind.schemaFile) =
      Validator.readSchema files' kind (Path.join config.versionDir kind.schemaFile) := by
    unfold Validator.readSchema
    rw [h kind.schemaFile (isFileName_schemaFile kind)]
  unfold Validator.load
  simp only [hread, h.compile_eq]

theorem loadSet_eq {config : Config} (h : SameDir config.versionDir files files')
    (st : Strictness) (kinds : List Kind) :
    ValidatorSet.load files config st kinds = ValidatorSet.load files' config st kinds := by
  have hloads : Validator.load files config st = Validator.load files' config st :=
    funext fun kind => h.load_eq st kind
  unfold ValidatorSet.load
  rw [hloads]

end SameDir

/-! ### Single validators -/

/-- A validator is of the kind that it was loaded for. -/
theorem Validator.kind_of_load {files : Files} {config : Config} {st : Strictness} {kind : Kind}
    {v : Validator} (h : (Validator.load files config st kind).result = .ok v) : v.kind = kind := by
  unfold load compile at h
  dsimp only at h
  split at h
  · cases h
  split at h
  · next hc =>
    split at hc
    · cases hc
      cases h
      rfl
    · cases hc
  · cases h

/-! ### Sets of validators -/

namespace ValidatorSet

variable {f : Kind → Except SchemaError Validator} {ks : List Kind} {k : Kind}

theorem mem_distinctKinds : k ∈ distinctKinds ks ↔ k ∈ ks := by
  unfold distinctKinds
  rw [List.mem_filter, List.contains_iff_mem]
  refine ⟨fun h => h.2, fun h => ⟨?_, h⟩⟩
  cases k <;> decide

theorem pairwise_distinctKinds (ks : List Kind) :
    (distinctKinds ks).Pairwise fun a b => a.index < b.index := by
  refine List.Pairwise.filter _ ?_
  decide

/-- A set comes about only if every result is a validator, and then it has each of them. -/
theorem get?_of_ofResults {s : ValidatorSet} (hkind : ∀ k v, f k = .ok v → v.kind = k)
    (h : ofResults (ks.map f) = .ok s) (hk : k ∈ ks) :
    ∃ v, f k = .ok v ∧ s.get? k = some v := by
  induction ks generalizing s with
  | nil => exact absurd hk List.not_mem_nil
  | cons first rest ih =>
    rw [List.map_cons] at h
    cases hfirst : f first with
    | error e =>
      rw [hfirst, ofResults] at h
      cases h
    | ok v =>
      rw [hfirst, ofResults] at h
      cases hs : ofResults (rest.map f) with
      | error e =>
        rw [hs] at h
        cases h
      | ok s₁ =>
        rw [hs] at h
        cases h
        have hv : v.kind = first := hkind first v hfirst
        -- The first validator is put in last, and covers the place of its own kind only.
        by_cases he : k = first
        · refine ⟨v, he ▸ hfirst, ?_⟩
          rw [he, ← hv, get?_insert_self]
        · obtain ⟨w, hw, hget⟩ := ih hs ((List.mem_cons.mp hk).resolve_left he)
          refine ⟨w, hw, ?_⟩
          rw [get?_insert_of_ne _ _ (hv ▸ he), hget]

/-- A set that comes about has no validator of any other kind. -/
theorem get?_of_ofResults_of_not_mem {s : ValidatorSet} (hkind : ∀ k v, f k = .ok v → v.kind = k)
    (h : ofResults (ks.map f) = .ok s) (hk : k ∉ ks) : s.get? k = none := by
  induction ks generalizing s with
  | nil =>
    cases h
    exact get?_empty k
  | cons first rest ih =>
    rw [List.mem_cons, not_or] at hk
    rw [List.map_cons] at h
    cases hfirst : f first with
    | error e =>
      rw [hfirst, ofResults] at h
      cases h
    | ok v =>
      rw [hfirst, ofResults] at h
      cases hs : ofResults (rest.map f) with
      | error e =>
        rw [hs] at h
        cases h
      | ok s₁ =>
        rw [hs] at h
        cases h
        have hv : v.kind = first := hkind first v hfirst
        rw [get?_insert_of_ne _ _ (hv ▸ hk.1), ih hs hk.2]

/-- A set fails to come about for the first failure among its results. -/
theorem ofResults_eq_error_iff {e : SchemaError}
    (hks : ks.Pairwise fun a b => a.index < b.index) :
    ofResults (ks.map f) = .error e ↔
      ∃ k ∈ ks, f k = .error e ∧ ∀ k' ∈ ks, k'.index < k.index → ∃ v, f k' = .ok v := by
  induction ks with
  | nil => simp [ofResults]
  | cons first rest ih =>
    obtain ⟨hfirst, hrest⟩ := List.pairwise_cons.mp hks
    rw [List.map_cons]
    cases hf : f first with
    | error e' =>
      rw [ofResults, Except.error.injEq]
      constructor
      · rintro rfl
        -- No kind comes before the first one.
        refine ⟨first, List.mem_cons_self, hf, fun k' hk' hlt => ?_⟩
        rcases List.mem_cons.mp hk' with rfl | hk'
        · exact absurd hlt (Nat.lt_irrefl _)
        · exact absurd hlt (Nat.lt_asymm (hfirst k' hk'))
      · rintro ⟨k, hk, hfk, hbefore⟩
        rcases List.mem_cons.mp hk with rfl | hk
        · rw [hf] at hfk
          exact Except.error.inj hfk
        · -- The first kind comes before `k` and fails, which contradicts `hbefore`.
          obtain ⟨v, hv⟩ := hbefore first List.mem_cons_self (hfirst k hk)
          rw [hf] at hv
          cases hv
    | ok v =>
      -- A validator in front does not change whether and why the others fail.
      have hmap : ofResults (.ok v :: rest.map f) = .error e ↔
          ofResults (rest.map f) = .error e := by
        rw [ofResults]
        cases ofResults (rest.map f) with
        | error e' => exact Iff.rfl
        | ok s => exact ⟨nofun, nofun⟩
      rw [hmap, ih hrest]
      constructor
      · rintro ⟨k, hk, hfk, hbefore⟩
        refine ⟨k, List.mem_cons_of_mem _ hk, hfk, fun k' hk' hlt => ?_⟩
        rcases List.mem_cons.mp hk' with rfl | hk'
        · exact ⟨v, hf⟩
        · exact hbefore k' hk' hlt
      · rintro ⟨k, hk, hfk, hbefore⟩
        rcases List.mem_cons.mp hk with rfl | hk
        · rw [hf] at hfk
          cases hfk
        · exact ⟨k, hk, hfk, fun k' hk' => hbefore k' (List.mem_cons_of_mem _ hk')⟩

variable {files : Files} {config : Config} {st : Strictness}

theorem load_result (files : Files) (config : Config) (st : Strictness) (ks : List Kind) :
    (load files config st ks).result =
      ofResults ((distinctKinds ks).map fun k => (Validator.load files config st k).result) := by
  unfold load Traced.all
  rw [List.map_map]
  rfl

/-- **Failures.** A set cannot be loaded exactly if a kind cannot, and the first such kind says
why. -/
theorem load_eq_error_iff {e : SchemaError} :
    (load files config st ks).result = .error e ↔
      ∃ k ∈ ks, (Validator.load files config st k).result = .error e ∧
        ∀ k' ∈ ks, k'.index < k.index →
          ∃ v, (Validator.load files config st k').result = .ok v := by
  rw [load_result, ofResults_eq_error_iff (pairwise_distinctKinds ks)]
  simp only [mem_distinctKinds]

/-- **Success.** A set that was loaded has the validator of each of its kinds. -/
theorem get?_of_load {s : ValidatorSet} (h : (load files config st ks).result = .ok s)
    (hk : k ∈ ks) :
    ∃ v, (Validator.load files config st k).result = .ok v ∧ s.get? k = some v := by
  rw [load_result] at h
  exact get?_of_ofResults (fun k v => Validator.kind_of_load) h (mem_distinctKinds.mpr hk)

theorem get?_of_load_of_not_mem {s : ValidatorSet}
    (h : (load files config st ks).result = .ok s) (hk : k ∉ ks) : s.get? k = none := by
  rw [load_result] at h
  exact get?_of_ofResults_of_not_mem (fun k v => Validator.kind_of_load) h
    fun hmem => hk (mem_distinctKinds.mp hmem)

end ValidatorSet

end DocCheck
