import DocCheck.Text.Lines
import Mathlib.Data.List.Count
import Mathlib.Data.Nat.Digits.Defs

/-!
# Texts on one line

A text without a line feed is shown on one line, and put behind one another such texts are one line
again. Numbers are such texts, and so is each of the lines of a text.

* `Text.IsLine` — texts without a line feed;
* `isDigit_of_mem_toString` — the characters of a number;
* `isLine_of_mem_lines` — the lines of a text are lines;
* `splitOn_unlines_iff` — texts that each end with a line feed come apart again exactly if they are
  lines.
-/

namespace DocCheck.Text

/-- Whether some characters hold no line feed. -/
def IsLine (cs : List Char) : Prop := '\n' ∉ cs

instance (cs : List Char) : Decidable (IsLine cs) := inferInstanceAs (Decidable ('\n' ∉ cs))

variable {cs ds : List Char} {s t : String}

@[simp] theorem isLine_nil : IsLine [] := List.not_mem_nil

@[simp] theorem isLine_cons {c : Char} : IsLine (c :: cs) ↔ c ≠ '\n' ∧ IsLine cs := by
  unfold IsLine
  rw [List.mem_cons, not_or]
  exact and_congr_left fun _ => ⟨Ne.symm, Ne.symm⟩

@[simp] theorem isLine_append : IsLine (cs ++ ds) ↔ IsLine cs ∧ IsLine ds := by
  unfold IsLine
  rw [List.mem_append, not_or]

theorem IsLine.of_subset (h : IsLine ds) (hs : cs ⊆ ds) : IsLine cs := fun hc => h (hs hc)

theorem isLine_flatMap {α : Type} {xs : List α} {f : α → List Char} :
    IsLine (xs.flatMap f) ↔ ∀ x ∈ xs, IsLine (f x) := by
  unfold IsLine
  rw [List.mem_flatMap]
  exact ⟨fun h x hx hf => h ⟨x, hx, hf⟩, fun h ⟨x, hx, hf⟩ => h x hx hf⟩

theorem isLine_ofList (h : IsLine cs) : IsLine (String.ofList cs).toList := by
  rwa [String.toList_ofList]

theorem IsLine.append (hs : IsLine s.toList) (ht : IsLine t.toList) : IsLine (s ++ t).toList := by
  rw [String.toList_append, isLine_append]
  exact ⟨hs, ht⟩

theorem IsLine.append_ofList (hs : IsLine s.toList) (h : IsLine cs) :
    IsLine (s ++ String.ofList cs).toList :=
  hs.append (isLine_ofList h)

/-! ### Numbers -/

/-- The decimal text of a natural number holds digits only. -/
theorem isDigit_of_mem_toString {n : Nat} {c : Char} (h : c ∈ (toString n).toList) :
    c.isDigit = true := by
  rw [Nat.toString_eq_ofList_toDigits, String.toList_ofList] at h
  exact Nat.isDigit_of_mem_toDigits (by omega) (by omega) h

/-- The decimal text of a natural number tells the number. -/
theorem eq_of_toString {m n : Nat} (h : (toString m).toList = (toString n).toList) : m = n := by
  rw [Nat.toString_eq_ofList_toDigits, Nat.toString_eq_ofList_toDigits, String.toList_ofList,
    String.toList_ofList] at h
  have hread := congrArg (fun cs => Nat.ofDigitChars 10 cs 0) h
  simpa only [Nat.ofDigitChars_ten_toDigits] using hread

theorem isLine_toString (n : Nat) : IsLine (toString n).toList := by
  intro h
  exact absurd (isDigit_of_mem_toString h) (by decide)

/-! ### Lines of a text -/

theorem isLine_dropReturn (h : IsLine cs) : IsLine (dropReturn cs) := by
  unfold dropReturn
  split
  · exact h.of_subset (List.dropLast_subset _)
  · exact h

theorem isLine_of_mem_linesFrom {line : List Char} (hline : IsLine line) {l : List Char}
    (h : l ∈ linesFrom line cs) : IsLine l := by
  -- `line` is the start of the first line, read so far and in reverse; it holds no line feed.
  induction cs generalizing line with
  | nil =>
    unfold linesFrom at h
    split at h
    · exact absurd h List.not_mem_nil
    · rw [List.mem_singleton.mp h]
      exact hline.of_subset fun _ => List.mem_reverse.mp
  | cons c cs ih =>
    unfold linesFrom at h
    split at h
    · rcases List.mem_cons.mp h with rfl | h
      · exact isLine_dropReturn (hline.of_subset fun _ => List.mem_reverse.mp)
      · exact ih isLine_nil h
    · next hc => exact ih (isLine_cons.mpr ⟨hc, hline⟩) h

/-- The lines of a text are lines. -/
theorem isLine_of_mem_lines {l : String} (h : l ∈ lines s) : IsLine l.toList := by
  obtain ⟨cs, hcs, rfl⟩ := List.mem_map.mp h
  rw [String.toList_ofList]
  exact isLine_of_mem_linesFrom isLine_nil hcs

/-! ### Splitting -/

/-- There is one part more than there are line feeds. -/
theorem length_splitOn (cs : List Char) : (cs.splitOn '\n').length = cs.count '\n' + 1 := by
  induction cs with
  | nil => rfl
  | cons c cs ih =>
    rw [List.splitOn_cons_eq_if_modifyHead, List.count_cons]
    split
    · rw [List.length_cons, ih]
    · rw [List.length_modifyHead, ih, Nat.add_zero]

/-- Lines that are each ended by a line feed come apart again, with nothing behind the last one. -/
theorem splitOn_unlines {texts : List (List Char)} (h : ∀ t ∈ texts, IsLine t) :
    (texts.flatMap fun t => t ++ ['\n']).splitOn '\n' = texts ++ [[]] := by
  induction texts with
  | nil => rfl
  | cons t rest ih =>
    rw [List.forall_mem_cons] at h
    rw [List.flatMap_cons, List.append_assoc, List.singleton_append,
      List.splitOn_append_cons_self_of_not_mem h.1, ih h.2, List.cons_append]

/-- There are at least as many line feeds as texts that they end. -/
theorem length_le_count_unlines (texts : List (List Char)) :
    texts.length ≤ (texts.flatMap fun t => t ++ ['\n']).count '\n' := by
  induction texts with
  | nil => exact Nat.le_refl _
  | cons t rest ih =>
    rw [List.flatMap_cons, List.count_append, List.count_append, List.count_singleton_self,
      List.length_cons]
    omega

/-- Where there are just as many, each of the texts is a line. -/
theorem isLine_of_count_unlines {texts : List (List Char)}
    (h : (texts.flatMap fun t => t ++ ['\n']).count '\n' = texts.length) :
    ∀ t ∈ texts, IsLine t := by
  induction texts with
  | nil => exact fun _ ht => absurd ht List.not_mem_nil
  | cons t rest ih =>
    rw [List.flatMap_cons, List.count_append, List.count_append, List.count_singleton_self,
      List.length_cons] at h
    have hrest := length_le_count_unlines rest
    refine List.forall_mem_cons.mpr ⟨?_, ih (by omega)⟩
    exact List.count_eq_zero.mp (by omega)

/-- **Splitting at line feeds.** Texts that are each ended by a line feed come apart again, with
nothing behind the last one, exactly if they are lines. -/
theorem splitOn_unlines_iff {texts : List (List Char)} :
    (texts.flatMap fun t => t ++ ['\n']).splitOn '\n' = texts ++ [[]] ↔
      ∀ t ∈ texts, IsLine t := by
  refine ⟨fun h => isLine_of_count_unlines ?_, splitOn_unlines⟩
  -- A line feed inside a text would make one part more than there are texts.
  have hlength := congrArg List.length h
  rw [length_splitOn, List.length_append, List.length_singleton] at hlength
  exact Nat.add_right_cancel hlength

end DocCheck.Text
