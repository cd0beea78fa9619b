import DocCheck.Proofs.Run.Basic

/-!
# Runs without a report

A run ends without a report if its command line is unusable, or else if a kind of its files has no
usable schema; no document can bring this about. What goes wrong is found in this order, and among
the schemas in the order of kinds.

* `IsFirstFailure` — the failure of the first kind whose validator cannot be loaded;
* `run_eq_config_error_iff`, `run_eq_schema_error_iff`, `run_ne_internal` — the three errors;
* `run_ends_alike` — documents do not decide whether there is a report;
* `run_aborts` — all of it together.
-/

namespace DocCheck

/-- The failure of the first kind, profiles before legacy documents, that some file of a command
line has and whose validator cannot be loaded. -/
def IsFirstFailure (files : Files) (config : Config) (c : Classification) (e : SchemaError) :
    Prop :=
  ∃ k, (∃ f ∈ c.files, f.kind = k) ∧
    (Validator.load files config c.strictness k).result = .error e ∧
    ∀ k', (∃ f ∈ c.files, f.kind = k') → k'.index < k.index →
      ∃ v, (Validator.load files config c.strictness k').result = .ok v

variable {files files' : Files} {config : Config} {tokens : List String}

theorem loadSet_eq_error_iff {c : Classification} {e : SchemaError} :
    (ValidatorSet.load files config c.strictness c.kinds).result = .error e ↔
      IsFirstFailure files config c e := by
  rw [ValidatorSet.load_eq_error_iff]
  simp only [Classification.mem_kinds]
  rfl

/-- Where some kind of a file fails, some kind fails first. -/
theorem exists_isFirstFailure_iff {c : Classification} :
    (∃ e, IsFirstFailure files config c e) ↔
      ∃ f ∈ c.files, ∃ e, (Validator.load files config c.strictness f.kind).result = .error e := by
  constructor
  · rintro ⟨e, k, ⟨f, hf, rfl⟩, he, _⟩
    exact ⟨f, hf, e, he⟩
  · rintro ⟨f, hf, e, he⟩
    cases hset : (ValidatorSet.load files config c.strictness c.kinds).result with
    | error e' => exact ⟨e', loadSet_eq_error_iff.mp hset⟩
    | ok set =>
      obtain ⟨v, hv, _⟩ := exists_validators hset hf
      rw [he] at hv
      cases hv

/-- Once the validators are loaded there is a report. -/
theorem exists_report {c : Classification} {set : ValidatorSet}
    (h : (ValidatorSet.load files config c.strictness c.kinds).result = .ok set) (docs : Files) :
    ∃ report, (checkFiles docs set c.files).result = .ok report := by
  have hvalidators : ∀ f ∈ c.files, ∃ v, set.get? f.kind = some v := by
    intro f hf
    obtain ⟨v, _, hv⟩ := exists_validators h hf
    exact ⟨v, hv⟩
  obtain ⟨report, hreport, _⟩ := checkFiles_result docs hvalidators
  exact ⟨report, hreport⟩

/-- **Cases.** A run ends with the error of the command line, with that of a schema, or with a
report. -/
theorem run_cases (files : Files) (config : Config) (tokens : List String) :
    (∃ e, classify tokens = .error e ∧ (run files config tokens).result = .error (.config e)) ∨
      (∃ c e, classify tokens = .ok c ∧ IsFirstFailure files config c e ∧
        (run files config tokens).result = .error (.schema e)) ∨
      ∃ c report, classify tokens = .ok c ∧ (¬∃ e, IsFirstFailure files config c e) ∧
        (run files config tokens).result = .ok report := by
  rw [run_result]
  cases classify tokens with
  | error e => exact .inl ⟨e, rfl, rfl⟩
  | ok c =>
    dsimp only
    cases hset : (ValidatorSet.load files config c.strictness c.kinds).result with
    | error e => exact .inr (.inl ⟨c, e, rfl, loadSet_eq_error_iff.mp hset, rfl⟩)
    | ok set =>
      obtain ⟨report, hreport⟩ := exists_report hset files
      -- Had some kind failed, there would be no set of validators.
      refine .inr (.inr ⟨c, report, rfl, ?_, hreport⟩)
      rintro ⟨e, he⟩
      rw [loadSet_eq_error_iff.mpr he] at hset
      cases hset

/-- A run ends with a configuration error exactly if the command line is refused with it. -/
theorem run_eq_config_error_iff {e : ConfigError} :
    (run files config tokens).result = .error (.config e) ↔ classify tokens = .error e := by
  rcases run_cases files config tokens with ⟨e', hc, hr⟩ | ⟨c, e', hc, _, hr⟩ | ⟨c, r, hc, _, hr⟩
  · rw [hc, hr, Except.error.injEq, Except.error.injEq, RunError.config.injEq]
  · rw [hc, hr]
    exact ⟨nofun, nofun⟩
  · rw [hc, hr]
    exact ⟨nofun, nofun⟩

/-- A run ends with the error of a schema exactly if its command line is usable and that is the
first failure. -/
theorem run_eq_schema_error_iff {e : SchemaError} :
    (run files config tokens).result = .error (.schema e) ↔
      ∃ c, classify tokens = .ok c ∧ IsFirstFailure files config c e := by
  rw [run_result]
  cases classify tokens with
  | error e' => exact ⟨nofun, nofun⟩
  | ok c =>
    -- The command line is classified in one way only.
    have hsame : (∃ c', (.ok c : Except ConfigError Classification) = .ok c' ∧
        IsFirstFailure files config c' e) ↔ IsFirstFailure files config c e := by
      constructor
      · rintro ⟨c', hc', he⟩
        cases hc'
        exact he
      · exact fun he => ⟨c, rfl, he⟩
    rw [hsame, ← loadSet_eq_error_iff]
    dsimp only
    cases hset : (ValidatorSet.load files config c.strictness c.kinds).result with
    | error e' => rw [Except.error.injEq, Except.error.injEq, RunError.schema.injEq]
    | ok set =>
      obtain ⟨report, hreport⟩ := exists_report hset files
      dsimp only
      rw [hreport]
      exact ⟨nofun, nofun⟩

/-- No file is ever found to be without a validator. -/
theorem run_ne_internal (reason : String) :
    (run files config tokens).result ≠ .error (.internal reason) := by
  rcases run_cases files config tokens with ⟨e', _, hr⟩ | ⟨c, e', _, _, hr⟩ | ⟨c, r, _, _, hr⟩
  all_goals
    rw [hr]
    exact nofun

/-- **Documents.** Over two file systems that agree on the version directory, whatever else they
hold, a run ends with the same error or with a report in both. -/
theorem run_ends_alike (h : SameDir config.versionDir files files') :
    (∃ e, (run files config tokens).result = .error e ∧
        (run files' config tokens).result = .error e) ∨
      ∃ report report', (run files config tokens).result = .ok report ∧
        (run files' config tokens).result = .ok report' := by
  rw [run_result, run_result]
  cases classify tokens with
  | error e => exact .inl ⟨.config e, rfl, rfl⟩
  | ok c =>
    dsimp only
    rw [← h.loadSet_eq]
    cases hset : (ValidatorSet.load files config c.strictness c.kinds).result with
    | error e => exact .inl ⟨.schema e, rfl, rfl⟩
    | ok set =>
      obtain ⟨report, hreport⟩ := exists_report hset files
      obtain ⟨report', hreport'⟩ := exists_report hset files'
      exact .inr ⟨report, report', hreport, hreport'⟩

/-- **When a run aborts.** A run ends with a configuration error exactly if its command line is
refused with that error, whatever the files are; with the error of a schema exactly if the command
line is usable and the schema of some kind that a file has is not, and the first such kind says why;
and for no other reason. File systems that agree on the version directory make no difference. -/
theorem run_aborts (h : SameDir config.versionDir files files') (tokens : List String) :
    (∀ e, (run files config tokens).result = .error (.config e) ↔ classify tokens = .error e) ∧
      ((∃ e, (run files config tokens).result = .error (.schema e)) ↔
        ∃ c, classify tokens = .ok c ∧ ∃ f ∈ c.files, ∃ e,
          (Validator.load files config c.strictness f.kind).result = .error e) ∧
      (∀ e, (run files config tokens).result = .error (.schema e) ↔
        ∃ c, classify tokens = .ok c ∧ IsFirstFailure files config c e) ∧
      (∀ reason, (run files config tokens).result ≠ .error (.internal reason)) ∧
      ((∃ e, (run files config tokens).result = .error e ∧
          (run files' config tokens).result = .error e) ∨
        ∃ report report', (run files config tokens).result = .ok report ∧
          (run files' config tokens).result = .ok report') := by
  refine ⟨fun e => run_eq_config_error_iff, ?_, fun e => run_eq_schema_error_iff,
    run_ne_internal, run_ends_alike h⟩
  simp only [run_eq_schema_error_iff]
  constructor
  -- Which of the failing kinds is told is no part of this equivalence.
  · rintro ⟨e, c, hc, he⟩
    exact ⟨c, hc, exists_isFirstFailure_iff.mp ⟨e, he⟩⟩
  · rintro ⟨c, hc, hfails⟩
    obtain ⟨e, he⟩ := exists_isFirstFailure_iff.mpr hfails
    exact ⟨e, c, hc, he⟩

/-! ### A directory without usable schemas

The schema of profiles is missing, and that of legacy documents is no JSON; there is a document
beside them. -/

/-- Files without usable schemas, and a legacy document. -/
def unusableSchemas (document : String) : Files where
  read path :=
    if path = "schemas/v1/legacies.json" then .ok "none"
    else if path = "legacies/a.yaml" then .ok document
    else .error .notFound

/-- The document is not in the version directory. -/
theorem sameDir_unusableSchemas (document document' : String) :
    SameDir Config.standard.versionDir (unusableSchemas document) (unusableSchemas document') := by
  intro name hname
  have hpath : Path.join Config.standard.versionDir name ≠ "legacies/a.yaml" := by
    intro h
    -- A path into the version directory does not start as that of the document does.
    have hhead : (Path.join Config.standard.versionDir name).toList.head? = some 'l' := by
      rw [h]
      rfl
    have hdir : Config.standard.versionDir = "schemas/v1" := by decide +kernel
    rw [hname.join_eq, hdir, if_neg (by decide), String.append_assoc, String.toList_append] at hhead
    exact absurd hhead (by simp)
  simp only [unusableSchemas, if_neg hpath]

theorem run_aborts_unusableSchemas :
    SameDir Config.standard.versionDir (unusableSchemas "a: 1") (unusableSchemas "a: [") ∧
      (run (unusableSchemas "a: 1") .standard ["legacies/a.yaml", "profiles/b.yaml"]).result =
        .error (.schema (.load .profile "schemas/v1/profiles.json"
          "No such file or directory (os error 2)")) ∧
      (run (unusableSchemas "a: [") .standard ["legacies/a.yaml", "profiles/b.yaml"]).result =
        .error (.schema (.load .profile "schemas/v1/profiles.json"
          "No such file or directory (os error 2)")) := by
  have hsame := sameDir_unusableSchemas "a: 1" "a: ["
  obtain ⟨_, _, hschema, _, halike⟩ :=
    run_aborts hsame ["legacies/a.yaml", "profiles/b.yaml"]
  have hclassify : classify ["legacies/a.yaml", "profiles/b.yaml"] =
      .ok ⟨[⟨"legacies/a.yaml", .legacy⟩, ⟨"profiles/b.yaml", .profile⟩], .tight, []⟩ := by
    decide +kernel
  have hfirst :
      (run (unusableSchemas "a: 1") .standard ["legacies/a.yaml", "profiles/b.yaml"]).result =
        .error (.schema (.load .profile "schemas/v1/profiles.json"
          "No such file or directory (os error 2)")) := by
    refine (hschema _).mpr ⟨_, hclassify, .profile, by simp, rfl, fun k' _ hlt => ?_⟩
    exact absurd hlt (Nat.not_lt_zero _)
  refine ⟨hsame, hfirst, ?_⟩
  rcases halike with ⟨e, he, he'⟩ | ⟨report, _, hr, _⟩
  · rw [he', ← he, hfirst]
  · rw [hfirst] at hr
    cases hr

end DocCheck
