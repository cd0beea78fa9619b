import DocCheck.Proofs.Report.Layout
import DocCheck.Proofs.Run.Verdict
import DocCheck.Proofs.Violation
import DocCheck.Proofs.Yaml.ToJson

/-!
# The lines of a run's report

The report of a run whose files have names without line feeds is meant to be read line by line. Its
header and the reasons why files hold no document never get in the way; the violations do only if
one of them is not shown on one line.

* `Violation.IsToldIn` — the violations in a report;
* `Report.isLine_layout_iff` — which reports come apart into their lines;
* `run_layout` — the layout of a report, and which violations break it.
-/

namespace DocCheck

open Text (IsLine isLine_ofList)

/-- Whether a violation is told in a report. -/
def Violation.IsToldIn (w : Violation) (report : Report) : Prop :=
  ∃ r ∈ report.results, ∃ ws, r.outcome = .schemaErrors ws ∧ w ∈ ws

/-! ### Lines -/

theorem Report.isLine_header (r : Report) : IsLine r.header.toList := by
  unfold header
  split
  · exact ((isLine_ofList (by decide)).append (Text.isLine_toString _)).append
      (isLine_ofList (by decide))
  · exact (((Text.isLine_toString _).append (isLine_ofList (by decide))).append
      (Text.isLine_toString _)).append (isLine_ofList (by decide))

theorem isLine_indented (reason : String) :
    ∀ l ∈ (Text.lines reason).map (fun l => "  " ++ l), IsLine l.toList := by
  intro l hl
  obtain ⟨m, hm, rfl⟩ := List.mem_map.mp hl
  exact Text.IsLine.append (isLine_ofList (by decide)) (Text.isLine_of_mem_lines hm)

/-- A bullet does not change whether a violation is shown on one line. -/
theorem isLine_bullet_iff {w : Violation} :
    IsLine ("  - " ++ w.line).toList ↔ IsLine w.line.toList := by
  have hbullet : IsLine "  - ".toList := isLine_ofList (by decide)
  rw [String.toList_append, Text.isLine_append]
  exact and_iff_right hbullet

/-- The lines about a file whose name is a line are lines exactly if its violations are. -/
theorem FileResult.isLine_block_iff {r : FileResult} (hname : IsLine r.filename.toList) :
    (∀ l ∈ r.block, IsLine l.toList) ↔
      ∀ ws, r.outcome = .schemaErrors ws → ∀ w ∈ ws, IsLine w.line.toList := by
  obtain ⟨filename, outcome⟩ := r
  have hempty : IsLine "".toList := Text.isLine_nil
  cases outcome with
  | valid => exact iff_of_true nofun nofun
  | readError reason =>
    refine iff_of_true (List.forall_mem_cons.mpr ⟨hempty, ?_⟩) nofun
    exact List.forall_mem_cons.mpr ⟨hname, isLine_indented reason⟩
  | parseError reason =>
    refine iff_of_true (List.forall_mem_cons.mpr ⟨hempty, ?_⟩) nofun
    exact List.forall_mem_cons.mpr ⟨hname, isLine_indented reason⟩
  | schemaErrors violations =>
    change (∀ l ∈ "" :: filename :: violations.map _, _) ↔ _
    rw [List.forall_mem_cons, List.forall_mem_cons, List.forall_mem_map]
    constructor
    · rintro ⟨_, _, h⟩ ws heq w hw
      cases heq
      exact isLine_bullet_iff.mp (h w hw)
    · intro h
      exact ⟨hempty, hname, fun w hw => isLine_bullet_iff.mpr (h _ rfl w hw)⟩

/-- **A report** of files whose names are lines has lines only exactly if every violation in it is
shown on one line. -/
theorem Report.isLine_layout_iff {r : Report}
    (hnames : ∀ x ∈ r.results, IsLine x.filename.toList) :
    (∀ l ∈ r.layout, IsLine l.toList) ↔ ∀ w : Violation, w.IsToldIn r → IsLine w.line.toList := by
  unfold layout
  rw [List.forall_mem_cons, List.forall_mem_flatMap]
  constructor
  · rintro ⟨_, h⟩ w ⟨x, hx, ws, hws, hw⟩
    exact (FileResult.isLine_block_iff (hnames x hx)).mp (h x hx) ws hws w hw
  · intro h
    refine ⟨r.isLine_header, fun x hx => (FileResult.isLine_block_iff (hnames x hx)).mpr ?_⟩
    exact fun ws hws w hw => h w ⟨x, hx, ws, hws, hw⟩

/-! ### Runs -/

variable {files : Files} {config : Config} {tokens : List String} {report : Report}

theorem filename_mem_tokens (h : (run files config tokens).result = .ok report) {r : FileResult}
    (hr : r ∈ report.results) : r.filename ∈ tokens := by
  obtain ⟨c, v, f, hf, hc, _, rfl⟩ := exists_file_of_mem_results h hr
  have hpath : f.path ∈ c.files.map InputFile.path := List.mem_map_of_mem hf
  rw [paths_of_classify hc] at hpath
  exact List.mem_of_mem_filter hpath

theorem exists_document_of_isToldIn (h : (run files config tokens).result = .ok report)
    {w : Violation} (hw : w.IsToldIn report) :
    ∃ (v : Validator) (document : Json), document.SortedKeys ∧ w ∈ v.violations document := by
  obtain ⟨r, hr, ws, hws, hw⟩ := hw
  obtain ⟨c, v, f, _, _, _, rfl⟩ := exists_file_of_mem_results h hr
  obtain ⟨text, document, _, hdocument, _, rfl⟩ :=
    ((checkPath_isVerdict files v f.path).schemaErrors_iff ws).mp hws
  exact ⟨v, document, readDocument_sortedKeys hdocument, hw⟩

/-- **The layout of a report.** Split at line feeds, the text of a report is its header and, for
each failing file, an empty line, its name, and indented lines for its violations or its reason,
exactly if every violation in it is shown on one line. Each of these is found by a schema in a
document, and such a violation is shown on one line unless it is for a pattern whose text holds a
line feed, or for members that nothing evaluates of which a name holds one. -/
theorem run_layout (h : (run files config tokens).result = .ok report)
    (htokens : ∀ t ∈ tokens, IsLine t.toList) :
    (((report.render false).toList.splitOn '\n').map String.ofList = report.layout ++ [""] ↔
      ∀ w : Violation, w.IsToldIn report → IsLine w.line.toList) ∧
    (∀ w : Violation, w.IsToldIn report →
      ∃ (v : Validator) (document : Json), document.SortedKeys ∧ w ∈ v.violations document) ∧
    ∀ (v : Validator) (document : Json), document.SortedKeys → ∀ w ∈ v.violations document,
      (¬IsLine w.line.toList ↔ ∃ f ∈ v.program.faults document,
        w ∈ Violation.ofFault document f ∧ f.cause.Breaks) := by
  refine ⟨?_, fun w hw => exists_document_of_isToldIn h hw, fun v document hdocument w hw => ?_⟩
  -- A text comes apart into the lines it was put together from if and only if these are lines.
  · rw [report.splitOn_render_iff]
    exact Report.isLine_layout_iff fun r hr => htokens _ (filename_mem_tokens h hr)
  · exact Validator.not_isLine_iff hdocument hw

/-! ### A report that does not come apart into its lines -/

/-- A schema whose pattern holds a line feed, and two documents. -/
def wordFiles : Files where
  read path :=
    if path = "schemas/v1/profiles.json" then
      .ok "\x7b\"$schema\": \"http://json-schema.org/draft-07/schema#\", \"pattern\": \"a\\nb\"\x7d"
    else if path = "a.yaml" then .ok "a"
    else if path = "b.yaml" then .ok "\"a\\nb\""
    else .error .notFound

/-- The tokens of a run over them, and over a file that is not there. -/
def wordTokens : List String := ["--loose", "--profiles", "a.yaml", "b.yaml", "c.yaml"]

/-- The violation of the pattern. -/
def wordViolation : Violation := ⟨"", .other "pattern", "\"a\" does not match \"a\nb\""⟩

/-- What the run reports. -/
def wordReport : Report :=
  ⟨[⟨"a.yaml", .schemaErrors [wordViolation]⟩,
    ⟨"b.yaml", .valid⟩,
    ⟨"c.yaml", .readError "cannot read file: No such file or directory (os error 2)"⟩]⟩

theorem run_wordFiles : (run wordFiles .standard wordTokens).result = .ok wordReport := by
  decide +kernel

theorem run_layout_wordFiles :
    (run wordFiles .standard wordTokens).result = .ok wordReport ∧
      (∀ t ∈ wordTokens, IsLine t.toList) ∧
      wordReport.layout =
        ["2 of 3 file(s) failed validation",
          "", "a.yaml", "  - \"a\" does not match \"a\nb\"",
          "", "c.yaml", "  cannot read file: No such file or directory (os error 2)"] ∧
      ((wordReport.render false).toList.splitOn '\n').map String.ofList ≠
        wordReport.layout ++ [""] := by
  have htokens : ∀ t ∈ wordTokens, IsLine t.toList := by decide +kernel
  refine ⟨run_wordFiles, htokens, by decide +kernel, fun h => ?_⟩
  have htold : wordViolation.IsToldIn wordReport :=
    ⟨_, List.mem_cons_self, _, rfl, List.mem_singleton_self _⟩
  have hline := (run_layout run_wordFiles htokens).1.mp h wordViolation htold
  exact absurd hline (by decide +kernel)

end DocCheck
