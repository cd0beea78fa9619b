import DocCheck.CommandLine
import DocCheck.Proofs.Report
import DocCheck.Proofs.Run.Basic
import DocCheck.Proofs.Schema.Told

/-!
# The verdict of a run

A run that ends with a report has a result for each of its files, and each result is the outcome of
three stages: the file is read, its text is read as a document, and the schema of its kind is
applied. The first stage that fails decides. The counts, the summary line and the exit status all
say the same about them.

* `IsVerdict`, `checkPath_isVerdict` — what each outcome of a file says;
* `result_congr` — a result depends on its own file and its schema only;
* `Report.failed_eq_countP`, `Report.opens_iff` — the counts, and the line that a report opens with;
* `execute_of_run`, `execute_status_eq_zero_iff` — what is printed, and the exit status;
* `run_verdict` — all of it together.
-/

namespace DocCheck

/-! ### Single files -/

/-- What an outcome says about the file at a path: which of the three stages was the first to fail,
if one failed. -/
structure IsVerdict (files : Files) (v : Validator) (path : String) (o : Outcome) : Prop where
  /-- The file is valid exactly if it holds a document in which its schema finds no fault. -/
  valid_iff : o = .valid ↔ ∃ text document, files.read path = .ok text ∧
    readDocument text = .ok document ∧ v.program.faults document = []
  /-- A read error says that the file has no text. -/
  readError_iff : ∀ reason, o = .readError reason ↔
    ∃ e, files.read path = .error e ∧ reason = "cannot read file: " ++ e.message
  /-- A parse error says that its text is no document. -/
  parseError_iff : ∀ reason, o = .parseError reason ↔ ∃ text e, files.read path = .ok text ∧
    readDocument text = .error e ∧ reason = e.message
  /-- Violations are those that the schema finds in the document. -/
  schemaErrors_iff : ∀ violations, o = .schemaErrors violations ↔
    ∃ text document, files.read path = .ok text ∧ readDocument text = .ok document ∧
      v.program.faults document ≠ [] ∧ violations = v.violations document

/-- **One file.** What becomes of a file is its verdict. -/
theorem checkPath_isVerdict (files : Files) (v : Validator) (path : String) :
    IsVerdict files v path (checkPath files v path) := by
  unfold checkPath
  cases hread : files.read path with
  | error e =>
    refine ⟨by simp [hread], fun reason => ?_, by simp [hread], by simp [hread]⟩
    simp only [Except.error.injEq, exists_eq_left', Outcome.readError.injEq, hread]
    exact eq_comm
  | ok text =>
    dsimp only
    unfold checkText
    cases hdocument : readDocument text with
    | error e =>
      refine ⟨by simp [hread, hdocument], by simp [hread], fun reason => ?_,
        by simp [hread, hdocument]⟩
      simp only [hread, hdocument, Except.ok.injEq, exists_and_left, exists_eq_left',
        Except.error.injEq, Outcome.parseError.injEq]
      exact eq_comm
    | ok document =>
      dsimp only
      unfold Outcome.ofViolations
      by_cases hnil : v.program.faults document = []
      -- Each fault is told by some violation, so that one list is empty if the other one is.
      · have hvalid : v.violations document = [] := (v.violations_eq_nil_iff document).mpr hnil
        rw [hvalid]
        constructor <;> simp [hread, hdocument, hnil]
      · have hinvalid : v.violations document ≠ [] :=
          fun h => hnil ((v.violations_eq_nil_iff document).mp h)
        rw [if_neg (by simpa using hinvalid)]
        refine ⟨by simp [hread, hdocument, hnil], by simp [hread], by simp [hread, hdocument],
          fun violations => ?_⟩
        simp only [hread, hdocument, Except.ok.injEq, exists_and_left, exists_eq_left',
          Outcome.schemaErrors.injEq, ne_eq, hnil, not_false_eq_true, true_and]
        exact eq_comm

variable {files files' : Files} {config : Config} {tokens tokens' : List String}
  {report report' : Report} {c c' : Classification}

/-- The result at an index is that of the file at this index. -/
theorem getElem?_results (h : (run files config tokens).result = .ok report)
    (hc : classify tokens = .ok c) {i : Nat} {f : InputFile} (hf : c.files[i]? = some f) :
    ∃ v, (Validator.load files config c.strictness f.kind).result = .ok v ∧
      report.results[i]? = some ⟨f.path, checkPath files v f.path⟩ := by
  obtain ⟨c₁, hc₁, hall⟩ := results_of_run h
  rw [hc] at hc₁
  cases hc₁
  obtain ⟨hi, rfl⟩ := List.getElem?_eq_some_iff.mp hf
  have hj : i < report.results.length := hall.length_eq ▸ hi
  obtain ⟨v, hv, hr⟩ := (List.forall₂_iff_get.mp hall).2 i hi hj
  refine ⟨v, hv, ?_⟩
  rw [List.getElem?_eq_getElem hj]
  exact congrArg some hr

/-- **Independence.** The result of a file goes by its own path, kind and text, by the schemas and
by the strictness; it is the same wherever else these are the same, whatever the other files are. -/
theorem result_congr (h : (run files config tokens).result = .ok report)
    (h' : (run files' config tokens').result = .ok report') (hc : classify tokens = .ok c)
    (hc' : classify tokens' = .ok c') (hdir : SameDir config.versionDir files files')
    (hst : c.strictness = c'.strictness) {i j : Nat} {f : InputFile} (hi : c.files[i]? = some f)
    (hj : c'.files[j]? = some f) (hread : files.read f.path = files'.read f.path) :
    report.results[i]? = report'.results[j]? := by
  obtain ⟨v, hv, hr⟩ := getElem?_results h hc hi
  obtain ⟨v', hv', hr'⟩ := getElem?_results h' hc' hj
  rw [hdir.load_eq, hst, hv', Except.ok.injEq] at hv
  rw [hr, hr', hv]
  unfold checkPath
  rw [hread]

/-! ### The program -/

/-- A run of the program that ends with a report prints it, and its exit status says whether it is a
success. -/
theorem execute_of_run {lookup : String → Option String} {args : List CommandLine.Argument}
    {verbosity : Nat} (hargs : CommandLine.parse args = .run verbosity tokens)
    (hconfig : Config.ofLookup lookup = .ok config)
    (h : (run files config tokens).result = .ok report) :
    (CommandLine.execute lookup files args).status = (if report.isSuccess then 0 else 1) ∧
      (CommandLine.execute lookup files args).stdout =
        report.render (CommandLine.insistsOnColour lookup) := by
  unfold CommandLine.execute
  rw [hargs]
  dsimp only
  unfold CommandLine.executeRun
  rw [hconfig]
  dsimp only [Traced.after]
  rw [h]
  exact ⟨rfl, rfl⟩

theorem execute_status_eq_zero_iff {lookup : String → Option String}
    {args : List CommandLine.Argument} {verbosity : Nat}
    (hargs : CommandLine.parse args = .run verbosity tokens)
    (hconfig : Config.ofLookup lookup = .ok config)
    (h : (run files config tokens).result = .ok report) :
    (CommandLine.execute lookup files args).status = 0 ↔
      ∀ r ∈ report.results, r.outcome = .valid := by
  rw [(execute_of_run hargs hconfig h).1, ← Report.isSuccess_iff]
  by_cases hs : report.isSuccess = true
  · simp [hs]
  · simp [hs]

/-- **The verdict of a run.** A run that ends with a report has one result for each token that does
not start with two dashes, in order and under the very name; the result says how the file fares with
the validator of its kind, and depends on no other file. As many files count as failed as are not
valid, and the program exits with zero, under the line of a success, exactly if there are none. -/
theorem run_verdict (h : (run files config tokens).result = .ok report) :
    ∃ c, classify tokens = .ok c ∧
      report.results.map FileResult.filename =
        tokens.filter (fun t => ¬['-', '-'] <+: t.toList) ∧
      List.Forall₂ (fun (f : InputFile) r => r.filename = f.path ∧
        ∃ v, (Validator.load files config c.strictness f.kind).result = .ok v ∧
          IsVerdict files v f.path r.outcome) c.files report.results ∧
      (∀ files' tokens' report' c', (run files' config tokens').result = .ok report' →
        classify tokens' = .ok c' → SameDir config.versionDir files files' →
        c.strictness = c'.strictness → ∀ (i j : Nat) (f : InputFile), c.files[i]? = some f →
        c'.files[j]? = some f → files.read f.path = files'.read f.path →
        report.results[i]? = report'.results[j]?) ∧
      report.failed = report.results.countP (fun r => decide (r.outcome ≠ .valid)) ∧
      (∀ lookup args verbosity, CommandLine.parse args = .run verbosity tokens →
        Config.ofLookup lookup = .ok config →
        ((CommandLine.execute lookup files args).status = 0 ↔
          ∀ r ∈ report.results, r.outcome = .valid) ∧
        (CommandLine.execute lookup files args).stdout =
          report.render (CommandLine.insistsOnColour lookup)) ∧
      ∀ colour,
        (Paint.green.apply colour
            ("All " ++ toString report.results.length ++ " file(s) are valid")).toList
          <+: (report.render colour).toList ↔
        ∀ r ∈ report.results, r.outcome = .valid := by
  obtain ⟨c, hc, hall⟩ := results_of_run h
  refine ⟨c, hc, ?_, ?_, ?_, report.failed_eq_countP, ?_, fun colour => report.opens_iff colour⟩
  -- Results are named by files, and these are the tokens that are no switches.
  · have hnames : report.results.map FileResult.filename = c.files.map InputFile.path := by
      rw [← List.forall₂_eq_eq_eq, List.forall₂_map_left_iff, List.forall₂_map_right_iff]
      refine hall.flip.imp fun r f hr => ?_
      obtain ⟨v, _, rfl⟩ := hr
      rfl
    rw [hnames, paths_of_classify hc]
    refine List.filter_congr fun t _ => ?_
    rw [Bool.eq_iff_iff, Bool.not_eq_true', decide_eq_true_iff, ← Classifier.isFlag_iff,
      Bool.not_eq_true]
  · refine hall.imp fun f r hr => ?_
    obtain ⟨v, hv, rfl⟩ := hr
    exact ⟨rfl, v, hv, checkPath_isVerdict files v f.path⟩
  · intro files' tokens' report' c' h' hc' hdir hst i j f hi hj hread
    exact result_congr h h' hc hc' hdir hst hi hj hread
  · intro lookup args verbosity hargs hconfig
    exact ⟨execute_status_eq_zero_iff hargs hconfig h, (execute_of_run hargs hconfig h).2⟩

/-! ### A run with every outcome -/

/-- A schema for one value, a document with it, one with another value, and one that is none. -/
def letterFiles : Files where
  read path :=
    if path = "schemas/v1/profiles.json" then
      .ok "\x7b\"$schema\": \"http://json-schema.org/draft-07/schema#\", \"const\": \"a\"\x7d"
    else if path = "a.yaml" then .ok "a"
    else if path = "b.yaml" then .ok "b"
    else if path = "c.yaml" then .ok "*a"
    else .error .notFound

/-- The tokens of a run over them, one file twice. -/
def letterTokens : List String :=
  ["--loose", "--profiles", "b.yaml", "a.yaml", "c.yaml", "--nosniff", "d.yaml", "a.yaml"]

/-- What the run reports. -/
def letterReport : Report :=
  ⟨[⟨"b.yaml", .schemaErrors [⟨"", .other "const", "\"a\" was expected"⟩]⟩,
    ⟨"a.yaml", .valid⟩,
    ⟨"c.yaml", .parseError "unknown anchor"⟩,
    ⟨"d.yaml", .readError "cannot read file: No such file or directory (os error 2)"⟩,
    ⟨"a.yaml", .valid⟩]⟩

theorem run_letterFiles :
    (run letterFiles .standard letterTokens).result = .ok letterReport := by
  decide +kernel

theorem run_verdict_letterFiles :
    (run letterFiles .standard letterTokens).result = .ok letterReport ∧
      ∃ c, classify letterTokens = .ok c ∧
        letterReport.results.map FileResult.filename =
          ["b.yaml", "a.yaml", "c.yaml", "d.yaml", "a.yaml"] ∧
        List.Forall₂ (fun (f : InputFile) (r : FileResult) => r.filename = f.path ∧
          ∃ v, (Validator.load letterFiles .standard c.strictness f.kind).result = .ok v ∧
            IsVerdict letterFiles v f.path r.outcome) c.files letterReport.results ∧
        letterReport.failed = 3 ∧
        (CommandLine.execute (fun _ => none) letterFiles (letterTokens.map .text)).status ≠ 0 := by
  obtain ⟨c, hc, hnames, hall, _, hfailed, hexit, _⟩ := run_verdict run_letterFiles
  refine ⟨run_letterFiles, c, hc, hnames, hall, hfailed, fun hzero => ?_⟩
  have hstatus := (hexit (fun _ => none) (letterTokens.map .text) 0 (by decide +kernel) rfl).1
  exact absurd (hstatus.mp hzero) (by decide)

end DocCheck
