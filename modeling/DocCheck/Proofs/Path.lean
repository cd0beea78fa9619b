import DocCheck.Path
import Mathlib.Data.List.Basic

/-!
# Parts of a text

Dividing a text at a character is splitting it. A name is joined to a path as one more part.

* `segments_eq_splitOn` — dividing as splitting;
* `segments_of_not_mem`, `segments_append` — a text without the character, and its first part;
* `components_join` — a name below a path.
-/

namespace DocCheck.Path

variable {divider : Char} {cs : List Char}

/-- Dividing is splitting. -/
theorem segments_eq_splitOn (divider : Char) (cs : List Char) :
    segments divider cs = cs.splitOn divider := by
  induction cs with
  | nil => rfl
  | cons c cs ih =>
    rw [segments, ih, List.splitOn_cons_eq_if_modifyHead]
    by_cases h : c = divider
    · rw [if_pos h, if_pos (beq_iff_eq.mpr h)]
    · rw [if_neg h, if_neg (by simpa using h)]
      cases hs : cs.splitOn divider with
      | nil => exact absurd hs (List.splitOn_ne_nil divider cs)
      | cons s rest => rfl

/-- A text that does not hold the character is its own only part. -/
theorem segments_of_not_mem (h : divider ∉ cs) : segments divider cs = [cs] := by
  rw [segments_eq_splitOn, List.splitOn_eq_singleton h]

/-- Dividing at one occurrence is dividing what stands before it and what stands behind it. -/
theorem segments_append_cons (front rest : List Char) :
    segments divider (front ++ divider :: rest) = segments divider front ++ segments divider rest := by
  simp only [segments_eq_splitOn, List.splitOn_append_cons_self]

/-- What stands before the first occurrence of the character is the first part. -/
theorem segments_append (h : divider ∉ cs) (rest : List Char) :
    segments divider (cs ++ divider :: rest) = cs :: segments divider rest := by
  rw [segments_eq_splitOn, segments_eq_splitOn, List.splitOn_append_cons_self_of_not_mem h]

/-! ### Names below a path -/

section

variable {base name : String}

/-- A name is put behind a path and a slash, unless a slash is not needed. -/
theorem join_of_not_mem (hname : '/' ∉ name.toList) (base : String) :
    join base name =
      if base.toList.getLast?.all (· == '/') then base ++ name else base ++ "/" ++ name := by
  -- A text without slash is never an absolute path.
  have hrelative : isAbsolute name = false := by
    rw [isAbsolute, beq_eq_false_iff_ne]
    exact fun hslash => hname (List.mem_of_head? hslash)
  rw [join, hrelative, if_neg Bool.false_ne_true]

/-- A name is the last part. The parts before it are those of the path, but for the empty one behind
a slash at its end. -/
theorem exists_segments_join (hname : '/' ∉ name.toList) (hbase : base ≠ "") :
    ∃ front, segments '/' (join base name).toList = front ++ [name.toList] ∧
      (segments '/' base.toList = front ∨ segments '/' base.toList = front ++ [[]]) ∧
      (segments '/' base.toList).head? = front.head? := by
  have hlast : segments '/' name.toList = [name.toList] := segments_of_not_mem hname
  rw [join_of_not_mem hname]
  have hne : base.toList ≠ [] := fun h => hbase (String.toList_eq_nil_iff.mp h)
  obtain ⟨init, c, hinit⟩ : ∃ init c, base.toList = init ++ [c] :=
    ⟨_, _, (List.dropLast_append_getLast hne).symm⟩
  by_cases hc : c = '/'
  · -- The slash at the end divides already: the name takes the place of the empty part behind it.
    subst hc
    have hjoin : (base ++ name).toList = init ++ '/' :: name.toList := by
      rw [String.toList_append, hinit, List.append_assoc, List.singleton_append]
    have hparts : segments '/' base.toList = segments '/' init ++ [[]] := by
      rw [hinit, segments_append_cons, segments]
    have hsegments : segments '/' init ≠ [] := by
      rw [segments_eq_splitOn]
      exact List.splitOn_ne_nil '/' init
    refine ⟨segments '/' init, ?_, .inr hparts, ?_⟩
    · rw [if_pos (by rw [hinit, List.getLast?_concat]; rfl), hjoin, segments_append_cons, hlast]
    · rw [hparts, List.head?_append_of_ne_nil _ hsegments]
  · -- A slash is put in, and all parts of the path stay.
    have hjoin : (base ++ "/" ++ name).toList = base.toList ++ '/' :: name.toList := by
      rw [String.toList_append, String.toList_append, List.append_assoc]
      rfl
    refine ⟨segments '/' base.toList, ?_, .inl rfl, rfl⟩
    rw [if_neg (by simpa [hinit] using hc), hjoin, segments_append_cons, hlast]

/-- The path starts at the root as before. -/
theorem isAbsolute_join (hname : '/' ∉ name.toList) (hbase : base ≠ "") :
    isAbsolute (join base name) = isAbsolute base := by
  have hne : base.toList ≠ [] := fun h => hbase (String.toList_eq_nil_iff.mp h)
  -- With or without a slash, all that is added comes behind a text that is not empty.
  rw [join_of_not_mem hname, isAbsolute, isAbsolute]
  split
  · rw [String.toList_append, List.head?_append_of_ne_nil _ hne]
  · rw [String.append_assoc, String.toList_append, List.head?_append_of_ne_nil _ hne]

/-- **Joining.** A name below a path adds itself to the parts that count, unless it is a dot, and
leaves all others as they are. -/
theorem components_join (hname : '/' ∉ name.toList) (hempty : name ≠ "") (hbase : base ≠ "") :
    components (join base name) = components base ++ [name].filter (· != ".") := by
  obtain ⟨front, hjoin, hparts, hhead⟩ := exists_segments_join hname hbase
  have hne : front ≠ [] := by
    rintro rfl
    rw [segments_eq_splitOn] at hhead
    exact List.splitOn_ne_nil '/' base.toList (List.head?_eq_none_iff.mp hhead)
  -- An empty part does not count.
  have hcount : ∀ keep : List Char → Bool, keep [] = false →
      (segments '/' base.toList).filter keep = front.filter keep := by
    intro keep hkeep
    rcases hparts with h | h
    · rw [h]
    · rw [h, List.filter_append, List.filter_singleton, hkeep, cond_false, List.append_nil]
  have hlast : ([name.toList].filter fun s => s != [] && s != ['.']).map String.ofList =
      [name].filter (· != ".") := by
    by_cases hdot : name = "."
    · subst hdot
      rfl
    · have hcounts : (name.toList != [] && name.toList != ['.']) = true := by
        rw [Bool.and_eq_true, bne_iff_ne, bne_iff_ne]
        exact ⟨fun h => hempty (String.toList_eq_nil_iff.mp h),
          fun h => hdot (String.toList_injective h)⟩
      rw [List.filter_singleton, hcounts, cond_true, List.filter_singleton, bne_iff_ne.mpr hdot,
        cond_true, List.map_singleton, String.ofList_toList]
  unfold components
  dsimp only
  rw [isAbsolute_join hname hbase, hjoin, List.head?_append_of_ne_nil _ hne, ← hhead,
    List.filter_append, hcount _ rfl, ← hlast, ← List.map_append, List.append_assoc]

end

end DocCheck.Path
