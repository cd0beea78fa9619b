import DocCheck.Proofs.Async
import DocCheck.Proofs.Run.Basic
import DocCheck.Run.Jobs

/-!
# The order in which things get done

Validators are loaded and files are checked with many jobs at once, and these end in any order. What
comes of it does not show the order: the jobs are waited for one by one, in the order of kinds and
in the order of files. A schema that is found unusable first is therefore not told before the schema
of an earlier kind, and a result that is there first does not come before that of an earlier file.

* `IsLoadResult` — what loading the validators of some kinds has to come to;
* `IsCheckResult` — what checking files has to come to;
* `ValidatorSet.loading_returns`, `checking_returns` — the jobs come to what a run takes for it;
* `returns_in_any_order` — all of it together.
-/

namespace DocCheck

variable {files : Files} {config : Config} {st : Strictness} {set : ValidatorSet}
  {kinds : List Kind} {inputs : List InputFile}

/-! ### Loading validators -/

/-- What loading the validators of some kinds has to come to, whatever their order and however often
each of them is named. -/
structure IsLoadResult (files : Files) (config : Config) (st : Strictness) (kinds : List Kind)
    (r : Except SchemaError ValidatorSet) : Prop where
  /-- A set has the validator that each kind is loaded to, and no other. -/
  ok_iff : ∀ set, r = .ok set ↔ ∀ k,
    (k ∈ kinds → ∃ v, (Validator.load files config st k).result = .ok v ∧ set.get? k = some v) ∧
      (k ∉ kinds → set.get? k = none)
  /-- An error is that of the first kind, in the order of kinds, that cannot be loaded. -/
  error_iff : ∀ e, r = .error e ↔ ∃ k ∈ kinds, (Validator.load files config st k).result = .error e ∧
    ∀ k' ∈ kinds, k'.index < k.index → ∃ v, (Validator.load files config st k').result = .ok v

namespace ValidatorSet

/-- A set is what it has for each kind. -/
theorem eq_of_get? {s t : ValidatorSet} (h : ∀ k, s.get? k = t.get? k) : s = t := by
  have hprofile : s.profile = t.profile := h .profile
  have hlegacy : s.legacy = t.legacy := h .legacy
  obtain ⟨_, _⟩ := s
  obtain ⟨_, _⟩ := t
  obtain rfl : _ = _ := hprofile
  obtain rfl : _ = _ := hlegacy
  rfl

/-- Loading comes to what it has to come to. -/
theorem load_isLoadResult (files : Files) (config : Config) (st : Strictness)
    (kinds : List Kind) :
    IsLoadResult files config st kinds (load files config st kinds).result where
  ok_iff := by
    intro set
    constructor
    · intro h k
      exact ⟨fun hk => get?_of_load h hk, fun hk => get?_of_load_of_not_mem h hk⟩
    · intro h
      cases hload : (load files config st kinds).result with
      | error e =>
        -- Some kind would have failed, but `set` has a validator for each of them.
        obtain ⟨k, hk, he, _⟩ := load_eq_error_iff.mp hload
        obtain ⟨v, hv, _⟩ := (h k).1 hk
        rw [he] at hv
        cases hv
      | ok loaded =>
        refine congrArg Except.ok (eq_of_get? fun k => ?_)
        by_cases hk : k ∈ kinds
        · obtain ⟨v, hv, hget⟩ := (h k).1 hk
          obtain ⟨w, hw, hget'⟩ := get?_of_load hload hk
          rw [hv, Except.ok.injEq] at hw
          rw [hget, hget', hw]
        · rw [(h k).2 hk, get?_of_load_of_not_mem hload hk]
  error_iff := fun _ => load_eq_error_iff

theorem distinctKinds_congr {kinds' : List Kind} (h : ∀ k, k ∈ kinds' ↔ k ∈ kinds) :
    distinctKinds kinds' = distinctKinds kinds := by
  refine List.filter_congr fun k _ => ?_
  rw [Bool.eq_iff_iff, List.contains_iff_mem, List.contains_iff_mem]
  exact h k

/-- **Loading.** In whatever order the jobs for the kinds end, they come to what loading the kinds
one by one comes to. -/
theorem loading_returns (files : Files) (config : Config) (st : Strictness) (kinds : List Kind) :
    Async.Returns files (loading config st kinds) (load files config st kinds).result := by
  refine Async.returns_of_value? ?_
  obtain ⟨jobs, hjobs, hvalue⟩ := Async.value?_spawnAll files
    ((distinctKinds kinds).map fun k files => (Validator.load files config st k).result) []
    fun jobs => .joinAll jobs fun results => .done (ofResults results)
  unfold loading
  rw [hvalue, Async.value?_joinAll hjobs, load_result, List.map_map]
  rfl

end ValidatorSet

/-! ### Checking files -/

/-- What checking files has to come to. -/
structure IsCheckResult (files : Files) (set : ValidatorSet) (inputs : List InputFile)
    (r : Except RunError Report) : Prop where
  /-- A report has the result of each file, in the order of the files. -/
  ok_iff : ∀ report, r = .ok report ↔ List.Forall₂ (fun f x =>
    ∃ v, set.get? f.kind = some v ∧ x = (checkFile files v f).result) inputs report.results
  /-- An error is about the first file whose kind has no validator. -/
  error_iff : ∀ e, r = .error e ↔ ∃ before f after, inputs = before ++ f :: after ∧
    (∀ g ∈ before, ∃ v, set.get? g.kind = some v) ∧ set.get? f.kind = none ∧ e = .noValidator f

/-- The first file without a validator is the one that is told. -/
theorem withValidators_eq_error_iff {e : RunError} :
    withValidators set inputs = .error e ↔ ∃ before f after, inputs = before ++ f :: after ∧
      (∀ g ∈ before, ∃ v, set.get? g.kind = some v) ∧ set.get? f.kind = none ∧
        e = .noValidator f := by
  induction inputs with
  | nil =>
    constructor
    · intro h
      cases h
    · rintro ⟨before, f, after, hsplit, _⟩
      exact absurd hsplit (by simp)
  | cons first rest ih =>
    cases hfirst : set.get? first.kind with
    | none =>
      rw [withValidators, hfirst]
      constructor
      · intro h
        cases h
        exact ⟨[], first, rest, rfl, fun g hg => absurd hg List.not_mem_nil, hfirst, rfl⟩
      · rintro ⟨before, f, after, hsplit, hbefore, _, rfl⟩
        cases before with
        | nil =>
          obtain ⟨rfl, _⟩ := List.cons_eq_cons.mp hsplit
          rfl
        | cons g before =>
          -- Nothing without a validator stands before the file that is told.
          obtain ⟨rfl, _⟩ := List.cons_eq_cons.mp hsplit
          obtain ⟨v, hv⟩ := hbefore first List.mem_cons_self
          rw [hfirst] at hv
          cases hv
    | some v =>
      have hmap : withValidators set (first :: rest) = .error e ↔
          withValidators set rest = .error e := by
        rw [withValidators, hfirst]
        dsimp only
        cases withValidators set rest with
        | error e' => exact Iff.rfl
        | ok pairs =>
          constructor
          · intro h
            cases h
          · intro h
            cases h
      rw [hmap, ih]
      constructor
      · rintro ⟨before, f, after, rfl, hbefore, hf, he⟩
        refine ⟨first :: before, f, after, rfl, ?_, hf, he⟩
        intro g hg
        rcases List.mem_cons.mp hg with rfl | hg
        · exact ⟨v, hfirst⟩
        · exact hbefore g hg
      · rintro ⟨before, f, after, hsplit, hbefore, hf, he⟩
        cases before with
        | nil =>
          obtain ⟨rfl, _⟩ := List.cons_eq_cons.mp hsplit
          rw [hfirst] at hf
          cases hf
        | cons g before =>
          obtain ⟨_, hrest⟩ := List.cons_eq_cons.mp hsplit
          exact ⟨before, f, after, hrest, fun g hg => hbefore g (List.mem_cons_of_mem _ hg), hf, he⟩

/-- What checking files comes to, its events left aside. -/
theorem checkFiles_result_eq (files : Files) (set : ValidatorSet) (inputs : List InputFile) :
    (checkFiles files set inputs).result = (withValidators set inputs).map fun pairs =>
      ⟨pairs.map fun p => (checkFile files p.2 p.1).result⟩ := by
  unfold checkFiles
  cases withValidators set inputs with
  | error e => rfl
  | ok pairs =>
    change Except.ok (Report.mk ((pairs.map _).map Traced.result)) = _
    rw [List.map_map]
    rfl

/-- Checking comes to what it has to come to. -/
theorem checkFiles_isCheckResult (files : Files) (set : ValidatorSet) (inputs : List InputFile) :
    IsCheckResult files set inputs (checkFiles files set inputs).result where
  ok_iff := by
    intro report
    constructor
    · intro h
      have hvalidators : ∀ f ∈ inputs, ∃ v, set.get? f.kind = some v := by
        rw [checkFiles_result_eq] at h
        cases hpairs : withValidators set inputs with
        | error e =>
          rw [hpairs] at h
          cases h
        | ok pairs => exact validators_of_withValidators hpairs
      obtain ⟨report', hreport', hall⟩ := checkFiles_result files hvalidators
      rw [h] at hreport'
      cases hreport'
      exact hall
    · intro hall
      have hvalidators : ∀ f ∈ inputs, ∃ v, set.get? f.kind = some v := by
        intro f hf
        obtain ⟨i, hi, rfl⟩ := List.getElem_of_mem hf
        have hj : i < report.results.length := hall.length_eq ▸ hi
        obtain ⟨v, hv, _⟩ := (List.forall₂_iff_get.mp hall).2 i hi hj
        exact ⟨v, hv⟩
      obtain ⟨report', hreport', hall'⟩ := checkFiles_result files hvalidators
      have hunique := rightUnique_result files (fun k v => set.get? k = some v)
        fun hv hw => Option.some.inj (hv.symm.trans hw)
      have hsame : report'.results = report.results :=
        List.right_unique_forall₂' hunique hall' hall
      obtain ⟨results⟩ := report
      obtain ⟨results'⟩ := report'
      obtain rfl : results' = results := hsame
      exact hreport'
  error_iff := by
    intro e
    rw [← withValidators_eq_error_iff, checkFiles_result_eq]
    cases withValidators set inputs with
    | error e' => rw [Except.map, Except.error.injEq, Except.error.injEq]
    | ok pairs => exact ⟨nofun, nofun⟩

/-- The invariant of starting jobs: the jobs that were started come to the results of the files
before, and the value of what is left to do puts the results of the other files behind them. -/
theorem value?_checkingAfter (files : Files) (set : ValidatorSet) (inputs : List InputFile)
    {results found : List FileResult} {jobs : List Nat} (h : Async.ComeTo results jobs found) :
    (checkingAfter set jobs inputs).value? files results =
      some ((withValidators set inputs).map fun pairs =>
        ⟨found ++ pairs.map fun p => (checkFile files p.2 p.1).result⟩) := by
  induction inputs generalizing results found jobs with
  | nil =>
    rw [checkingAfter, Async.value?_joinAll h, withValidators, Except.map, List.map_nil,
      List.append_nil]
    rfl
  | cons first rest ih =>
    rw [checkingAfter, withValidators]
    cases set.get? first.kind with
    | none => rfl
    | some v =>
      have hrest := ih (h.concat (checkFile files v first).result)
      dsimp only
      rw [Async.value?, hrest]
      cases withValidators set rest with
      | error e => rfl
      | ok pairs =>
        simp only [Except.map, List.map_cons, List.append_assoc, List.singleton_append]

/-- **Checking.** In whatever order the jobs for the files end, they come to what checking the files
one by one comes to. -/
theorem checking_returns (files : Files) (set : ValidatorSet) (inputs : List InputFile) :
    Async.Returns files (checking set inputs) (checkFiles files set inputs).result := by
  refine Async.returns_of_value? ?_
  have hvalue : (checkingAfter set [] inputs).value? files [] = _ :=
    value?_checkingAfter files set inputs .nil
  unfold checking
  rw [hvalue, checkFiles_result_eq]
  simp only [List.nil_append]

/-! ### Both phases -/

/-- **The order in which jobs end does not show.** Loading the validators of some kinds returns one
and the same result whenever its jobs end, also for any other list of the same kinds: a set of
exactly these validators, or the error of the first kind that cannot be loaded. So does checking
files: the result of each file, in their order, or the error about the first file whose kind has no
validator. Either is what a run does one by one. -/
theorem returns_in_any_order (files : Files) (config : Config) (st : Strictness)
    (kinds : List Kind) (set : ValidatorSet) (inputs : List InputFile) :
    (IsLoadResult files config st kinds (ValidatorSet.load files config st kinds).result ∧
      ∀ kinds', (∀ k, k ∈ kinds' ↔ k ∈ kinds) →
        Async.Returns files (ValidatorSet.loading config st kinds')
          (ValidatorSet.load files config st kinds).result) ∧
      IsCheckResult files set inputs (checkFiles files set inputs).result ∧
      Async.Returns files (checking set inputs) (checkFiles files set inputs).result := by
  refine ⟨⟨ValidatorSet.load_isLoadResult files config st kinds, fun kinds' hkinds => ?_⟩,
    checkFiles_isCheckResult files set inputs, checking_returns files set inputs⟩
  have hsame : ValidatorSet.load files config st kinds' = ValidatorSet.load files config st kinds := by
    unfold ValidatorSet.load
    rw [ValidatorSet.distinctKinds_congr hkinds]
  rw [← hsame]
  exact ValidatorSet.loading_returns files config st kinds'

end DocCheck
