import DocCheck.Proofs.Text.Lines
import DocCheck.Report
import Mathlib.Data.List.Basic

/-!
# Reports

What the counts and the text of a report say about its results.

* `failed_eq_countP`, `isSuccess_iff` — the counts;
* `toList_render` — the text as lines that are each ended by a line feed;
* `opens_iff` — a report opens with the line of a success exactly if every file is valid.
-/

namespace DocCheck

theorem FileResult.isValid_iff {x : FileResult} : x.isValid ↔ x.outcome = .valid := by
  unfold isValid Outcome.isValid
  split
  · next h => exact ⟨fun _ => h, fun _ => rfl⟩
  · next h => exact ⟨fun hf => Bool.noConfusion hf, fun hv => absurd hv h⟩

namespace Report

/-! ### Counts -/

/-- The failed files are those that are not valid. -/
theorem failed_eq_countP (r : Report) :
    r.failed = r.results.countP fun x => decide (x.outcome ≠ .valid) := by
  -- The valid files and the others are all files.
  unfold failed total passed
  rw [← List.countP_eq_length_filter, List.length_eq_countP_add_countP FileResult.isValid,
    Nat.add_sub_cancel_left]
  refine List.countP_congr fun x _ => ?_
  rw [decide_eq_true_iff, decide_eq_true_iff, FileResult.isValid_iff]

theorem isSuccess_iff {r : Report} : r.isSuccess ↔ ∀ x ∈ r.results, x.outcome = .valid := by
  unfold isSuccess
  rw [List.all_eq_true]
  exact forall₂_congr fun x _ => FileResult.isValid_iff

/-! ### Text -/

/-- The text of a report is that of its lines, each ended by a line feed. -/
theorem toList_render (colour : Bool) (r : Report) :
    (r.render colour).toList =
      ((r.textLines colour).map String.toList).flatMap fun l => l ++ ['\n'] := by
  unfold render
  rw [String.toList_join, List.flatMap_map, List.flatMap_map]
  refine List.flatMap_congr fun l _ => ?_
  rw [String.toList_append]
  rfl

/-- It starts with its summary, in green for a success and in red otherwise. -/
theorem summary_isPrefix (colour : Bool) (r : Report) :
    ((if r.isSuccess then Paint.green else Paint.red).apply colour r.summary).toList <+:
      (r.render colour).toList := by
  rw [toList_render]
  unfold textLines
  split
  all_goals
    rw [List.map_cons, List.flatMap_cons, List.append_assoc]
    exact List.prefix_append _ _

/-- The summary of a report that is no success starts with a digit. -/
theorem exists_digit_summary {r : Report} (h : ¬r.isSuccess) :
    ∃ c cs, r.summary.toList = c :: cs ∧ c.isDigit = true := by
  unfold summary
  rw [if_neg h]
  cases hd : (toString r.failed).toList with
  | nil =>
    rw [Nat.toString_eq_ofList_toDigits, String.toList_ofList] at hd
    exact absurd hd Nat.toDigits_ne_nil
  | cons c cs =>
    simp only [String.toList_append, hd, List.cons_append]
    exact ⟨c, _, rfl, Text.isDigit_of_mem_toString (hd ▸ List.mem_cons_self)⟩

/-- **The opening.** A report opens with the line of a success exactly if every file is valid. -/
theorem opens_iff (colour : Bool) (r : Report) :
    (Paint.green.apply colour ("All " ++ toString r.results.length ++ " file(s) are valid")).toList
        <+: (r.render colour).toList ↔
      ∀ x ∈ r.results, x.outcome = .valid := by
  rw [← isSuccess_iff]
  have hstart := r.summary_isPrefix colour
  constructor
  · intro h
    by_contra hfails
    rw [if_neg hfails] at hstart
    obtain ⟨d, ds, hd, hdigit⟩ := exists_digit_summary hfails
    have hA : d ≠ 'A' := by
      rintro rfl
      exact absurd hdigit (by decide)
    -- Of two beginnings one is a beginning of the other, but these two differ early on.
    have hboth := List.prefix_or_prefix_of_prefix h hstart
    cases colour with
    | false =>
      simp only [Paint.apply, Bool.false_eq_true, if_false, hd, String.toList_append] at hboth
      rcases hboth with hp | hp
      · exact hA (List.cons_prefix_cons.mp hp).1.symm
      · exact hA (List.cons_prefix_cons.mp hp).1
    | true =>
      have hgreen : Paint.green.start = ['\x1b', '[', '3'] ++ ['2', 'm'] := rfl
      have hred : Paint.red.start = ['\x1b', '[', '3'] ++ ['1', 'm'] := rfl
      simp only [Paint.apply, if_true, String.toList_ofList, hgreen, hred, List.append_assoc,
        List.prefix_append_right_inj] at hboth
      rcases hboth with hp | hp
      · exact absurd (List.cons_prefix_cons.mp hp).1 (by decide)
      · exact absurd (List.cons_prefix_cons.mp hp).1 (by decide)
  · intro h
    rw [if_pos h] at hstart
    unfold summary at hstart
    rwa [if_pos h] at hstart

end Report

end DocCheck
