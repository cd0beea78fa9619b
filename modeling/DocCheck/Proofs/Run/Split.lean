import DocCheck.Proofs.Run.Abort
import DocCheck.Proofs.Run.Verdict

/-!
# Command lines in two parts

Files that stand behind the same mode switches can be checked in one run or in two. No file leaves
anything behind for the next: it changes neither how a later file gets its kind nor the strictness,
and the validators that a run loads are those that its files need, each of them for itself. One run
therefore ends with a report exactly if both of the two do, and it reports what they report.

* `classify_split` — the classified files of two parts, one behind the other;
* `run_split` — the course of a run over both parts, and of the runs over each of them;
* `run_append` — reports, results and errors.
-/

namespace DocCheck

namespace Classifier

/-! ### Switches and files -/

variable {s : Classifier} {t : String} {ts : List String}

/-- Before the first file every switch is taken. -/
theorem accept_switch (ht : t ∈ switches) (hs : s.found.files = []) :
    ∃ s', s.accept t = .ok s' ∧ s'.found.files = [] := by
  have hflag : isFlag t = true := by
    revert t
    decide
  have hlast : t = "--profiles" ∨ t = "--legacies" ∨ t = "--sniff" ∨ t = "--nosniff" ∨
      t = "--loose" := by
    simpa only [switches, List.mem_cons, List.not_mem_nil, or_false] using ht
  unfold accept
  rw [hflag, if_pos rfl]
  rcases hlast with rfl | rfl | rfl | rfl | rfl
  · exact ⟨_, rfl, hs⟩
  · exact ⟨_, rfl, hs⟩
  · exact ⟨_, rfl, hs⟩
  · exact ⟨_, rfl, hs⟩
  · -- the one switch that looks at the files: there must be none before it
    refine ⟨{ s with found := { s.found with strictness := .loose } }, ?_, hs⟩
    unfold applyFlag
    rw [hs]
    rfl

theorem acceptAll_switches (hts : ∀ t ∈ ts, t ∈ switches) (hs : s.found.files = []) :
    ∃ s', s.acceptAll ts = .ok s' ∧ s'.found.files = [] := by
  induction ts generalizing s with
  | nil => exact ⟨s, rfl, hs⟩
  | cons t ts ih =>
    obtain ⟨s₁, hs₁, hfiles₁⟩ := accept_switch (hts t List.mem_cons_self) hs
    obtain ⟨s₂, hs₂, hfiles₂⟩ := ih (fun u hu => hts u (List.mem_cons_of_mem _ hu)) hfiles₁
    refine ⟨s₂, ?_, hfiles₂⟩
    rw [acceptAll, hs₁]
    exact hs₂

/-- The file that a token becomes, unless there is no way to know its kind. -/
def fileOf (s : Classifier) (path : String) : InputFile :=
  match s.mode with
  | .explicit k => ⟨path, k⟩
  | _ => ⟨path, (sniff path).getD .profile⟩

/-- What tokens that are files do: each becomes a file, and nothing else changes that a later token
could go by. -/
structure Adds (s : Classifier) (ts : List String) (s' : Classifier) : Prop where
  /-- The files come behind those that were found before. -/
  files_eq : s'.found.files = s.found.files ++ ts.map s.fileOf
  /-- The next file gets its kind in the same way. -/
  mode_eq : s'.mode = s.mode
  /-- The strictness stays. -/
  strictness_eq : s'.found.strictness = s.found.strictness

/-- A file is taken unless there is no way to know its kind. -/
theorem accept_file (ht : isFlag t = false) :
    (s.mode = .disabled ∧ s.accept t = .error (.unclassified t)) ∨
      (s.mode ≠ .disabled ∧ ∃ s', s.accept t = .ok s' ∧ s.Adds [t] s') := by
  unfold accept
  rw [ht, if_neg Bool.false_ne_true]
  unfold classifyFile
  cases hmode : s.mode with
  | disabled => exact .inl ⟨rfl, rfl⟩
  | explicit k =>
    refine .inr ⟨nofun, s.addFile t k, rfl, ?_, rfl, rfl⟩
    have hfile : s.fileOf t = ⟨t, k⟩ := by rw [fileOf, hmode]
    rw [List.map_singleton, hfile]
    rfl
  | sniff =>
    have hfile : s.fileOf t = ⟨t, (sniff t).getD .profile⟩ := by rw [fileOf, hmode]
    dsimp only
    cases hsniff : sniff t with
    | some k =>
      refine .inr ⟨nofun, s.addFile t k, rfl, ?_, rfl, rfl⟩
      rw [List.map_singleton, hfile, hsniff]
      rfl
    | none =>
      refine .inr ⟨nofun, s.assumeProfile t, rfl, ?_, rfl, rfl⟩
      rw [List.map_singleton, hfile, hsniff]
      rfl

/-- **Files.** Files are taken all, or not even the first of them is. -/
theorem acceptAll_files (hts : ∀ t ∈ ts, isFlag t = false) :
    (s.mode = .disabled ∧ ∃ t rest, ts = t :: rest ∧ s.acceptAll ts = .error (.unclassified t)) ∨
      ((s.mode = .disabled → ts = []) ∧ ∃ s', s.acceptAll ts = .ok s' ∧ s.Adds ts s') := by
  induction ts generalizing s with
  | nil => exact .inr ⟨fun _ => rfl, s, rfl, (List.append_nil _).symm, rfl, rfl⟩
  | cons t ts ih =>
    rcases accept_file (s := s) (hts t List.mem_cons_self) with ⟨hmode, ht⟩ | ⟨hmode, s₁, ht, hadds₁⟩
    · refine .inl ⟨hmode, t, ts, rfl, ?_⟩
      rw [acceptAll, ht]
    -- The first file leaves the mode as it is, so that the others are not refused either.
    · refine .inr ⟨fun h => absurd h hmode, ?_⟩
      rcases ih (s := s₁) fun u hu => hts u (List.mem_cons_of_mem _ hu) with
        ⟨hmode₁, _⟩ | ⟨_, s₂, hts₂, hadds₂⟩
      · exact absurd (hadds₁.mode_eq.symm.trans hmode₁) hmode
      · refine ⟨s₂, ?_, ?_, hadds₂.mode_eq.trans hadds₁.mode_eq,
          hadds₂.strictness_eq.trans hadds₁.strictness_eq⟩
        · rw [acceptAll, ht]
          exact hts₂
        · have hsame : s₁.fileOf = s.fileOf := by
            funext path
            rw [fileOf, fileOf, hadds₁.mode_eq]
          rw [hadds₂.files_eq, hadds₁.files_eq, hsame, List.append_assoc, ← List.map_append]
          rfl

end Classifier

/-! ### Classified command lines -/

variable {switches first second : List String}

/-- **Switches with files behind them.** How the files get their kinds, and the strictness, is
settled by the switches. -/
theorem classify_files (hswitches : ∀ t ∈ switches, t ∈ Classifier.switches) :
    ∃ s : Classifier, ∀ ts : List String, (∀ t ∈ ts, Classifier.isFlag t = false) →
      (s.mode = .disabled ∧ ∃ t rest, ts = t :: rest ∧
        classify (switches ++ ts) = .error (.unclassified t)) ∨
      ((s.mode = .disabled → ts = []) ∧ ∃ c, classify (switches ++ ts) = .ok c ∧
        c.files = ts.map s.fileOf ∧ c.strictness = s.found.strictness) := by
  obtain ⟨s, hs, hnone⟩ := Classifier.acceptAll_switches (s := .start) hswitches rfl
  refine ⟨s, fun ts hts => ?_⟩
  have hclassify : classify (switches ++ ts) = (s.acceptAll ts).map Classifier.found := by
    unfold classify
    rw [Classifier.acceptAll_append, hs]
    rfl
  rw [hclassify]
  rcases Classifier.acceptAll_files (s := s) hts with
    ⟨hmode, t, rest, hsplit, herror⟩ | ⟨hmode, s', hok, hadds⟩
  · refine .inl ⟨hmode, t, rest, hsplit, ?_⟩
    rw [herror]
    rfl
  · refine .inr ⟨hmode, s'.found, ?_, ?_, hadds.strictness_eq⟩
    · rw [hok]
      rfl
    · rw [hadds.files_eq, hnone, List.nil_append]

/-- Classified files in two parts. -/
structure IsSplit (c a b : Classification) : Prop where
  /-- The files of the second part come behind those of the first. -/
  files_eq : c.files = a.files ++ b.files
  /-- Both parts have the strictness of the whole. -/
  first_eq : a.strictness = c.strictness
  second_eq : b.strictness = c.strictness

/-- **Two parts.** The files of both are classified as those of each part are, or the first file of
one part is refused in both. -/
theorem classify_split (hswitches : ∀ t ∈ switches, t ∈ Classifier.switches)
    (hfirst : ∀ t ∈ first, Classifier.isFlag t = false)
    (hsecond : ∀ t ∈ second, Classifier.isFlag t = false) :
    (∃ c a b, classify (switches ++ first ++ second) = .ok c ∧ classify (switches ++ first) = .ok a ∧
        classify (switches ++ second) = .ok b ∧ IsSplit c a b) ∨
      ∃ e, classify (switches ++ first ++ second) = .error e ∧
        (classify (switches ++ first) = .error e ∨ classify (switches ++ second) = .error e) := by
  obtain ⟨s, hs⟩ := classify_files hswitches
  have hboth : ∀ t ∈ first ++ second, Classifier.isFlag t = false := by
    intro t ht
    exact (List.mem_append.mp ht).elim (hfirst t) (hsecond t)
  rw [List.append_assoc]
  rcases hs _ hboth with ⟨hmode, t, rest, hsplit, herror⟩ | ⟨hmode, c, hc, hfiles, hst⟩
  · refine .inr ⟨_, herror, ?_⟩
    -- The file that is refused is the first of the first part, or of the second if that is empty.
    rcases hs _ hfirst with ⟨_, u, rest', rfl, herror'⟩ | ⟨hnone, _⟩
    · obtain ⟨rfl, _⟩ := List.cons_eq_cons.mp hsplit
      exact .inl herror'
    · rcases hs _ hsecond with ⟨_, u, rest', rfl, herror'⟩ | ⟨hnone', _⟩
      · rw [hnone hmode, List.nil_append] at hsplit
        obtain ⟨rfl, _⟩ := List.cons_eq_cons.mp hsplit
        exact .inr herror'
      · rw [hnone hmode, hnone' hmode] at hsplit
        cases hsplit
  -- The whole is taken, so that a part can only be refused where it would be empty.
  · refine .inl ?_
    rcases hs _ hfirst with ⟨hdisabled, t, rest, rfl, _⟩ | ⟨_, a, ha, hafiles, hast⟩
    · exact absurd (hmode hdisabled) (by simp)
    rcases hs _ hsecond with ⟨hdisabled, t, rest, rfl, _⟩ | ⟨_, b, hb, hbfiles, hbst⟩
    · exact absurd (hmode hdisabled) (by simp)
    refine ⟨c, a, b, hc, ha, hb, ?_, hast.trans hst.symm, hbst.trans hst.symm⟩
    rw [hfiles, hafiles, hbfiles, List.map_append]

/-! ### Runs -/

variable {files : Files} {config : Config} {c a b : Classification}

/-- A kind that fails first for both parts fails first for one of them. -/
theorem IsSplit.isFirstFailure (h : IsSplit c a b) {e : SchemaError}
    (he : IsFirstFailure files config c e) :
    IsFirstFailure files config a e ∨ IsFirstFailure files config b e := by
  obtain ⟨k, ⟨f, hf, hk⟩, hfails, hbefore⟩ := he
  rw [h.files_eq, List.mem_append] at hf
  rcases hf with hf | hf
  · refine .inl ⟨k, ⟨f, hf, hk⟩, h.first_eq ▸ hfails, fun k' hk' hlt => ?_⟩
    obtain ⟨g, hg, hkind⟩ := hk'
    have hmem : g ∈ c.files := h.files_eq ▸ List.mem_append_left _ hg
    exact h.first_eq ▸ hbefore k' ⟨g, hmem, hkind⟩ hlt
  · refine .inr ⟨k, ⟨f, hf, hk⟩, h.second_eq ▸ hfails, fun k' hk' hlt => ?_⟩
    obtain ⟨g, hg, hkind⟩ := hk'
    have hmem : g ∈ c.files := h.files_eq ▸ List.mem_append_right _ hg
    exact h.second_eq ▸ hbefore k' ⟨g, hmem, hkind⟩ hlt

/-- Fewer files need no other schemas: where all files have usable schemas, some of them have. -/
theorem not_exists_isFirstFailure {part : Classification} (hfiles : ∀ f ∈ part.files, f ∈ c.files)
    (hst : part.strictness = c.strictness) (h : ¬∃ e, IsFirstFailure files config c e) :
    ¬∃ e, IsFirstFailure files config part e := by
  intro hpart
  obtain ⟨f, hf, e, he⟩ := exists_isFirstFailure_iff.mp hpart
  exact h (exists_isFirstFailure_iff.mpr ⟨f, hfiles f hf, e, hst ▸ he⟩)

/-- A usable command line whose files have usable schemas ends with a report. -/
theorem exists_report_of_classify {tokens : List String} (hc : classify tokens = .ok c)
    (h : ¬∃ e, IsFirstFailure files config c e) :
    ∃ report, (run files config tokens).result = .ok report := by
  rcases run_cases files config tokens with
    ⟨e, he, _⟩ | ⟨c', e, hc', he, _⟩ | ⟨c', report, _, _, hr⟩
  · rw [hc] at he
    cases he
  · rw [hc] at hc'
    cases hc'
    exact absurd ⟨e, he⟩ h
  · exact ⟨report, hr⟩

/-- The results of the parts are the results of the whole. -/
theorem IsSplit.results_eq {tokens tokens₁ tokens₂ : List String} {report r₁ r₂ : Report}
    (h : IsSplit c a b) (hc : classify tokens = .ok c) (ha : classify tokens₁ = .ok a)
    (hb : classify tokens₂ = .ok b) (hr : (run files config tokens).result = .ok report)
    (hr₁ : (run files config tokens₁).result = .ok r₁)
    (hr₂ : (run files config tokens₂).result = .ok r₂) :
    report.results = r₁.results ++ r₂.results := by
  obtain ⟨c', hc', hall⟩ := results_of_run hr
  obtain ⟨a', ha', hall₁⟩ := results_of_run hr₁
  obtain ⟨b', hb', hall₂⟩ := results_of_run hr₂
  rw [hc, Except.ok.injEq] at hc'
  rw [ha, Except.ok.injEq] at ha'
  rw [hb, Except.ok.injEq] at hb'
  subst hc' ha' hb'
  rw [h.first_eq] at hall₁
  rw [h.second_eq] at hall₂
  rw [h.files_eq] at hall
  -- The results of files are settled by the files, so two lists of them for one list are the same.
  have hunique := rightUnique_result files
    (fun k v => (Validator.load files config c.strictness k).result = .ok v)
    fun hv hw => Except.ok.inj (hv.symm.trans hw)
  exact List.right_unique_forall₂' hunique hall (List.rel_append hall₁ hall₂)

/-- **Runs in two parts.** All three runs end with a report, and the results of both parts are those
of the whole; or the run over the whole ends with an error, and so does the run over one part. -/
theorem run_split (files : Files) (config : Config)
    (hswitches : ∀ t ∈ switches, t ∈ Classifier.switches)
    (hfirst : ∀ t ∈ first, Classifier.isFlag t = false)
    (hsecond : ∀ t ∈ second, Classifier.isFlag t = false) :
    (∃ report r₁ r₂, (run files config (switches ++ first ++ second)).result = .ok report ∧
        (run files config (switches ++ first)).result = .ok r₁ ∧
        (run files config (switches ++ second)).result = .ok r₂ ∧
        report.results = r₁.results ++ r₂.results) ∨
      ∃ e, (run files config (switches ++ first ++ second)).result = .error e ∧
        ((run files config (switches ++ first)).result = .error e ∨
          (run files config (switches ++ second)).result = .error e) := by
  rcases classify_split hswitches hfirst hsecond with ⟨c, a, b, hc, ha, hb, h⟩ | ⟨e, he, hpart⟩
  -- Only a kind without a usable schema keeps a run from its report, and the kinds of the whole are
  -- those of its parts.
  · by_cases hfails : ∃ e, IsFirstFailure files config c e
    · obtain ⟨e, he⟩ := hfails
      refine .inr ⟨.schema e, run_eq_schema_error_iff.mpr ⟨c, hc, he⟩, ?_⟩
      exact (h.isFirstFailure he).imp (fun he => run_eq_schema_error_iff.mpr ⟨a, ha, he⟩)
        fun he => run_eq_schema_error_iff.mpr ⟨b, hb, he⟩
    · obtain ⟨report, hr⟩ := exists_report_of_classify hc hfails
      obtain ⟨r₁, hr₁⟩ := exists_report_of_classify ha <| not_exists_isFirstFailure
        (fun f hf => h.files_eq ▸ List.mem_append_left _ hf) h.first_eq hfails
      obtain ⟨r₂, hr₂⟩ := exists_report_of_classify hb <| not_exists_isFirstFailure
        (fun f hf => h.files_eq ▸ List.mem_append_right _ hf) h.second_eq hfails
      exact .inl ⟨report, r₁, r₂, hr, hr₁, hr₂, h.results_eq hc ha hb hr hr₁ hr₂⟩
  · exact .inr ⟨.config e, run_eq_config_error_iff.mpr he,
      hpart.imp run_eq_config_error_iff.mpr run_eq_config_error_iff.mpr⟩

/-- **One run or two.** Behind the same switches, files can be checked in one run or in two: the one
ends with a report exactly if both of the two do, and then its results are those of the first
followed by those of the second. If it ends with an error, one of the two ends with the same. -/
theorem run_append (files : Files) (config : Config)
    (hswitches : ∀ t ∈ switches, t ∈ Classifier.switches)
    (hfirst : ∀ t ∈ first, ¬['-', '-'] <+: t.toList)
    (hsecond : ∀ t ∈ second, ¬['-', '-'] <+: t.toList) :
    ((∃ report, (run files config (switches ++ first ++ second)).result = .ok report) ↔
        (∃ r₁, (run files config (switches ++ first)).result = .ok r₁) ∧
          ∃ r₂, (run files config (switches ++ second)).result = .ok r₂) ∧
      (∀ report r₁ r₂, (run files config (switches ++ first ++ second)).result = .ok report →
        (run files config (switches ++ first)).result = .ok r₁ →
        (run files config (switches ++ second)).result = .ok r₂ →
        report.results = r₁.results ++ r₂.results) ∧
      ∀ e, (run files config (switches ++ first ++ second)).result = .error e →
        (run files config (switches ++ first)).result = .error e ∨
          (run files config (switches ++ second)).result = .error e := by
  have hflags : ∀ ts : List String, (∀ t ∈ ts, ¬['-', '-'] <+: t.toList) →
      ∀ t ∈ ts, Classifier.isFlag t = false := by
    intro ts hts t ht
    exact Bool.eq_false_iff.mpr fun hflag => hts t ht (Classifier.isFlag_iff.mp hflag)
  rcases run_split files config hswitches (hflags _ hfirst) (hflags _ hsecond) with
    ⟨report, r₁, r₂, hr, hr₁, hr₂, hresults⟩ | ⟨e, he, hpart⟩
  -- Each run has one end, which settles every `∃` and every hypothesis of the statement.
  · rw [hr, hr₁, hr₂]
    refine ⟨⟨fun _ => ⟨⟨r₁, rfl⟩, r₂, rfl⟩, fun _ => ⟨report, rfl⟩⟩, ?_, nofun⟩
    rintro _ _ _ ⟨⟩ ⟨⟩ ⟨⟩
    exact hresults
  · rw [he]
    refine ⟨⟨nofun, ?_⟩, nofun, ?_⟩
    · rintro ⟨⟨r₁, hr₁⟩, r₂, hr₂⟩
      rw [hr₁, hr₂] at hpart
      exact hpart.elim nofun nofun
    · rintro _ ⟨⟩
      exact hpart

/-- One run over the files of two, of which one occurs in both. -/
theorem run_append_letterFiles :
    (∀ t ∈ ["--loose", "--profiles"], t ∈ Classifier.switches) ∧
      (∀ t ∈ ["b.yaml", "a.yaml"], ¬['-', '-'] <+: t.toList) ∧
      (∀ t ∈ ["c.yaml", "d.yaml", "a.yaml"], ¬['-', '-'] <+: t.toList) ∧
      ∃ report r₁ r₂,
        (run letterFiles .standard (["--loose", "--profiles"] ++ ["b.yaml", "a.yaml"]
          ++ ["c.yaml", "d.yaml", "a.yaml"])).result = .ok report ∧
        (run letterFiles .standard (["--loose", "--profiles"] ++ ["b.yaml", "a.yaml"])).result =
          .ok r₁ ∧
        (run letterFiles .standard
          (["--loose", "--profiles"] ++ ["c.yaml", "d.yaml", "a.yaml"])).result = .ok r₂ ∧
        report.results = r₁.results ++ r₂.results ∧ r₁.results.length = 2 ∧
        r₂.results.length = 3 := by
  have hswitches : ∀ t ∈ ["--loose", "--profiles"], t ∈ Classifier.switches := by decide
  have hfirst : ∀ t ∈ ["b.yaml", "a.yaml"], ¬['-', '-'] <+: t.toList := by decide
  have hsecond : ∀ t ∈ ["c.yaml", "d.yaml", "a.yaml"], ¬['-', '-'] <+: t.toList := by decide
  obtain ⟨hiff, hresults, _⟩ := run_append letterFiles .standard hswitches hfirst hsecond
  have hr₁ : (run letterFiles .standard
      (["--loose", "--profiles"] ++ ["b.yaml", "a.yaml"])).result =
        .ok ⟨letterReport.results.take 2⟩ := by
    decide +kernel
  have hr₂ : (run letterFiles .standard
      (["--loose", "--profiles"] ++ ["c.yaml", "d.yaml", "a.yaml"])).result =
        .ok ⟨letterReport.results.drop 2⟩ := by
    decide +kernel
  obtain ⟨report, hr⟩ := hiff.mpr ⟨⟨_, hr₁⟩, _, hr₂⟩
  exact ⟨hswitches, hfirst, hsecond, report, _, _, hr, hr₁, hr₂, hresults _ _ _ hr hr₁ hr₂, rfl, rfl⟩

end DocCheck
