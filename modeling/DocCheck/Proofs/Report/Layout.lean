import DocCheck.Proofs.Report

/-!
# The lines of a report

A report is a list of lines: its header, then for each failing file an empty line, the name of the
file, and what is wrong with it, indented by two blanks at least. Its text can be divided into these
lines again exactly if none of them holds a line feed.

* `FileResult.block`, `Report.layout` — the lines;
* `Report.splitOn_render_iff` — when the text comes apart into them.
-/

namespace DocCheck

open Text (IsLine)

/-- The lines about a file: none if it is valid, and otherwise an empty line, its name, and one line
for each violation, or for each line of the reason why it has no document. -/
def FileResult.block (r : FileResult) : List String :=
  match r.outcome with
  | .valid => []
  | .readError reason | .parseError reason =>
    "" :: r.filename :: (Text.lines reason).map fun l => "  " ++ l
  | .schemaErrors violations => "" :: r.filename :: violations.map fun v => "  - " ++ v.line

namespace Report

/-- The first line: how many files there are, and how many of them are not valid. -/
def header (r : Report) : String :=
  if ∀ x ∈ r.results, x.outcome = .valid then
    "All " ++ toString r.results.length ++ " file(s) are valid"
  else
    toString (r.results.countP fun x => decide (x.outcome ≠ .valid)) ++ " of "
      ++ toString r.results.length ++ " file(s) failed validation"

/-- The lines of a report: the header, and those about each file, in the order of the files. -/
def layout (r : Report) : List String := r.header :: r.results.flatMap FileResult.block

/-! ### The lines as they are written -/

theorem summary_eq_header (r : Report) : r.summary = r.header := by
  unfold summary header
  rw [r.failed_eq_countP]
  -- one asks whether the run was a success, the other one whether every file is valid
  by_cases hs : r.isSuccess = true
  · rw [if_pos hs, if_pos (isSuccess_iff.mp hs)]
    rfl
  · rw [if_neg hs, if_neg fun h => hs (isSuccess_iff.mpr h)]
    rfl

theorem block_of_isValid {x : FileResult} (h : x.isValid) : x.block = [] := by
  rw [FileResult.block, FileResult.isValid_iff.mp h]

theorem failureLines_eq_block {x : FileResult} (h : x.isValid = false) :
    failureLines false x = x.block := by
  obtain ⟨filename, outcome⟩ := x
  cases outcome with
  | valid => exact Bool.noConfusion h
  | _ => rfl

theorem flatMap_failures (r : Report) :
    r.failures.flatMap (failureLines false) = r.results.flatMap FileResult.block := by
  unfold failures
  induction r.results with
  | nil => rfl
  | cons x rest ih =>
    rw [List.filter_cons, List.flatMap_cons]
    by_cases hx : x.isValid = true
    · rw [hx, if_neg (by decide), ih, block_of_isValid hx, List.nil_append]
    · rw [Bool.not_eq_true] at hx
      rw [hx, if_pos (by decide), List.flatMap_cons, ih, failureLines_eq_block hx]

/-- **Lines.** Without colours the lines of a report are its layout. -/
theorem textLines_eq_layout (r : Report) : r.textLines false = r.layout := by
  unfold textLines layout
  rw [← summary_eq_header, ← flatMap_failures]
  split
  · next hs =>
    -- a success has its header only, which is what no failures come to
    have hnone : r.failures = [] := by
      refine List.filter_eq_nil_iff.mpr fun x hx => ?_
      rw [List.all_eq_true.mp hs x hx]
      decide
    rw [hnone]
    rfl
  · rfl

/-- **The text** of a report comes apart into its lines exactly if each of them is one line. -/
theorem splitOn_render_iff (r : Report) :
    ((r.render false).toList.splitOn '\n').map String.ofList = r.layout ++ [""] ↔
      ∀ l ∈ r.layout, IsLine l.toList := by
  -- The parts of the text are lists of characters, the lines of the layout are texts.
  have hlists : ∀ xss : List (List Char),
      xss.map String.ofList = r.layout ++ [""] ↔ xss = r.layout.map String.toList ++ [[]] := by
    intro xss
    constructor
    · intro h
      have hmap := congrArg (List.map String.toList) h
      rw [List.map_map, List.map_append] at hmap
      simpa [Function.comp_def] using hmap
    · rintro rfl
      simp [Function.comp_def]
  rw [hlists, toList_render, textLines_eq_layout, Text.splitOn_unlines_iff, List.forall_mem_map]

end Report

end DocCheck
