import DocCheck.Proofs.Classification
import DocCheck.Proofs.Loading
import DocCheck.Run
import Mathlib.Data.List.Forall2

/-!
# The course of a run

What a run comes to, its events left aside. The kinds whose validators are loaded are those of the
files, so that no file is ever without the validator of its kind; once the validators are there,
each file is checked on its own.

* `run_result` — a run in terms of the command line and the loaded validators;
* `exists_validators` — every file of a run has the validator of its kind;
* `results_of_run`, `exists_file_of_mem_results` — the results of a run, file by file.
-/

namespace DocCheck

variable {files : Files} {config : Config} {tokens : List String}

/-! ### Files and validators -/

/-- Where every file has the validator of its kind, the two come in pairs. -/
theorem withValidators_eq_ok {set : ValidatorSet} {inputs : List InputFile}
    (h : ∀ f ∈ inputs, ∃ v, set.get? f.kind = some v) :
    ∃ pairs, withValidators set inputs = .ok pairs ∧
      List.Forall₂ (fun f p => p.1 = f ∧ set.get? f.kind = some p.2) inputs pairs := by
  induction inputs with
  | nil => exact ⟨[], rfl, .nil⟩
  | cons f rest ih =>
    obtain ⟨v, hv⟩ := h f List.mem_cons_self
    obtain ⟨pairs, hpairs, hall⟩ := ih fun g hg => h g (List.mem_cons_of_mem _ hg)
    refine ⟨(f, v) :: pairs, ?_, .cons ⟨rfl, hv⟩ hall⟩
    rw [withValidators, hv]
    dsimp only
    rw [hpairs]
    rfl

/-- Files that come in pairs with validators have validators. -/
theorem validators_of_withValidators {set : ValidatorSet} {inputs : List InputFile}
    {pairs : List (InputFile × Validator)} (h : withValidators set inputs = .ok pairs) :
    ∀ f ∈ inputs, ∃ v, set.get? f.kind = some v := by
  induction inputs generalizing pairs with
  | nil => exact nofun
  | cons first rest ih =>
    rw [withValidators] at h
    cases hfirst : set.get? first.kind with
    | none =>
      rw [hfirst] at h
      cases h
    | some v =>
      rw [hfirst] at h
      cases hrest : withValidators set rest with
      | error e =>
        rw [hrest] at h
        cases h
      | ok more =>
        intro f hf
        rcases List.mem_cons.mp hf with rfl | hf
        · exact ⟨v, hfirst⟩
        · exact ih hrest f hf

/-- Nothing else comes in pairs with validators. -/
theorem fst_mem_of_withValidators {set : ValidatorSet} {inputs : List InputFile}
    {pairs : List (InputFile × Validator)} (h : withValidators set inputs = .ok pairs) :
    ∀ p ∈ pairs, p.1 ∈ inputs := by
  obtain ⟨pairs', hpairs', hall⟩ := withValidators_eq_ok (validators_of_withValidators h)
  obtain rfl : pairs = pairs' := Except.ok.inj (h.symm.trans hpairs')
  clear h hpairs'
  induction hall with
  | nil => exact nofun
  | cons hfirst _ ih =>
    intro p hp
    rcases List.mem_cons.mp hp with rfl | hp
    · exact hfirst.1 ▸ List.mem_cons_self
    · exact List.mem_cons_of_mem _ (ih p hp)

/-- Checked files are reported in order, each with what becomes of it. -/
theorem checkFiles_result (files : Files) {set : ValidatorSet} {inputs : List InputFile}
    (h : ∀ f ∈ inputs, ∃ v, set.get? f.kind = some v) :
    ∃ report, (checkFiles files set inputs).result = .ok report ∧
      List.Forall₂ (fun f r => ∃ v, set.get? f.kind = some v ∧
        r = (⟨f.path, checkPath files v f.path⟩ : FileResult)) inputs report.results := by
  obtain ⟨pairs, hpairs, hall⟩ := withValidators_eq_ok h
  unfold checkFiles
  rw [hpairs]
  refine ⟨_, rfl, ?_⟩
  -- Only the results count here, not the events that come with them.
  change List.Forall₂ _ inputs ((pairs.map _).map Traced.result)
  rw [List.map_map, List.forall₂_map_right_iff]
  refine hall.imp fun f p hp => ⟨p.2, hp.2, ?_⟩
  rw [← hp.1]
  rfl

/-! ### Phases -/

/-- The second half of a run comes to what checking the files comes to. -/
theorem runFiles_result (set : ValidatorSet) (inputs : List InputFile) :
    (runFiles files set inputs).result = (checkFiles files set inputs).result := by
  unfold runFiles
  split <;> next heq => rw [heq]

/-- The first half of a run fails if the validators cannot be loaded. -/
theorem runClassified_result (c : Classification) :
    (runClassified files config c).result =
      match (ValidatorSet.load files config c.strictness c.kinds).result with
      | .error e => .error (.schema e)
      | .ok set => (checkFiles files set c.files).result := by
  unfold runClassified
  split
  · next heq => rw [heq]
  · next heq =>
    rw [heq]
    exact runFiles_result _ _

/-- **A run** fails if the command line is unusable, then if the validators cannot be loaded. -/
theorem run_result :
    (run files config tokens).result =
      match classify tokens with
      | .error e => .error (.config e)
      | .ok c =>
        match (ValidatorSet.load files config c.strictness c.kinds).result with
        | .error e => .error (.schema e)
        | .ok set => (checkFiles files set c.files).result := by
  unfold run
  cases classify tokens with
  | error e => rfl
  | ok c => exact runClassified_result c

/-! ### Reports -/

/-- Once the validators of a command line are loaded, every file has the validator of its kind. -/
theorem exists_validators {c : Classification} {set : ValidatorSet}
    (h : (ValidatorSet.load files config c.strictness c.kinds).result = .ok set)
    {f : InputFile} (hf : f ∈ c.files) :
    ∃ v, (Validator.load files config c.strictness f.kind).result = .ok v ∧
      set.get? f.kind = some v :=
  ValidatorSet.get?_of_load h (Classification.mem_kinds.mpr ⟨f, hf, rfl⟩)

theorem rightUnique_result (files : Files) (has : Kind → Validator → Prop)
    (hone : ∀ {k v w}, has k v → has k w → v = w) :
    Relator.RightUnique fun (f : InputFile) (x : FileResult) =>
      ∃ v, has f.kind v ∧ x = ⟨f.path, checkPath files v f.path⟩ := by
  rintro f x y ⟨v, hv, rfl⟩ ⟨w, hw, rfl⟩
  rw [hone hv hw]

/-- **The results of a run.** Each file of the command line is checked by the validator of its kind,
and reported in its place. -/
theorem results_of_run {report : Report} (h : (run files config tokens).result = .ok report) :
    ∃ c, classify tokens = .ok c ∧
      List.Forall₂ (fun f r => ∃ v,
        (Validator.load files config c.strictness f.kind).result = .ok v ∧
          r = (⟨f.path, checkPath files v f.path⟩ : FileResult)) c.files report.results := by
  rw [run_result] at h
  cases hc : classify tokens with
  | error e =>
    rw [hc] at h
    cases h
  | ok c =>
    rw [hc] at h
    dsimp only at h
    refine ⟨c, rfl, ?_⟩
    cases hset : (ValidatorSet.load files config c.strictness c.kinds).result with
    | error e =>
      rw [hset] at h
      cases h
    | ok set =>
      rw [hset] at h
      dsimp only at h
      have hvalidators : ∀ f ∈ c.files, ∃ v, set.get? f.kind = some v := by
        intro f hf
        obtain ⟨v, _, hv⟩ := exists_validators hset hf
        exact ⟨v, hv⟩
      obtain ⟨report', hreport', hall⟩ := checkFiles_result files hvalidators
      rw [h] at hreport'
      cases hreport'
      -- Checking asks the set for a validator; the one that it holds is the one that was loaded.
      refine List.forall₂_iff_get.mpr ⟨hall.length_eq, fun i hi hj => ?_⟩
      obtain ⟨v, hv, hr⟩ := (List.forall₂_iff_get.mp hall).2 i hi hj
      obtain ⟨w, hload, hw⟩ := exists_validators hset (List.get_mem _ ⟨i, hi⟩)
      rw [hv] at hw
      cases hw
      exact ⟨v, hload, hr⟩

theorem exists_file_of_mem_results {report : Report}
    (h : (run files config tokens).result = .ok report) {r : FileResult} (hr : r ∈ report.results) :
    ∃ c v, ∃ f ∈ c.files, classify tokens = .ok c ∧
      (Validator.load files config c.strictness f.kind).result = .ok v ∧
      r = ⟨f.path, checkPath files v f.path⟩ := by
  obtain ⟨c, hc, hall⟩ := results_of_run h
  obtain ⟨i, hi, rfl⟩ := List.getElem_of_mem hr
  have hj : i < c.files.length := hall.length_eq ▸ hi
  obtain ⟨v, hv, hresult⟩ := (List.forall₂_iff_get.mp hall).2 i hj hi
  exact ⟨c, v, c.files[i], List.getElem_mem hj, hc, hv, hresult⟩

end DocCheck
