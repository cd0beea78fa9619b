import DocCheck.Proofs.Classification
import DocCheck.Proofs.Path
import Mathlib.Data.List.Forall2

/-!
# The directory of a file

A path tells a kind by the directory that its file sits in. The search for this directory looks at
the start of every part of the path, so it might find a directory of that name further up, a longer
name that ends like it, or a name with no file behind it. It does not: it tells what one would read
off the last two parts.

Both sides speak of lists of parts. Slashes and backslashes alike divide a path into its parts
(`pathParts`), empty ones included, and a file is directly in the directory of a kind if the last
part is not empty and the part before it is the name of the kind (`IsDirectlyIn`).

* `sniffHere_eq_some_iff` — what is found at the start of a part: exactly two parts are left, the
  directory and the file;
* `sniffFrom_eq_some_iff` — what the search finds from there on, by recursion on the text; the flag
  of the search says whether the part that it stands in still counts;
* `sniff_eq_some_iff` — the search against the parts;
* `sniff_looks_at_directory` — what follows for paths that share their last two parts.
-/

namespace DocCheck

/-! ### The parts of a path -/

/-- Whether a character divides the parts of a path. -/
def dividesParts (c : Char) : Bool := c == '/' || c == '\\'

/-- The parts of a path, between slashes and backslashes. -/
def pathParts (path : String) : List String :=
  (path.toList.splitOnP dividesParts).map String.ofList

/-- **The directory of a file.** The last part is the name of a file, and the part before it is the
name of the directory of a kind. -/
def IsDirectlyIn (path : String) (k : Kind) : Prop :=
  ∃ front file, pathParts path = front ++ [k.name, file] ∧ file ≠ ""

/-- A path with slashes for backslashes has the parts of the path between its slashes. -/
theorem segments_slashed (cs : List Char) :
    Path.segments '/' (cs.map fun c => if c = '\\' then '/' else c) = cs.splitOnP dividesParts := by
  induction cs with
  | nil => rfl
  | cons c cs ih =>
    rw [List.map_cons, Path.segments, ih, List.splitOnP_cons_eq_if_modifyHead]
    by_cases hback : c = '\\'
    · subst hback
      rfl
    · rw [if_neg hback]
      by_cases hslash : c = '/'
      · subst hslash
        rfl
      · have hnot : dividesParts c = false := by simp [dividesParts, hback, hslash]
        rw [if_neg hslash, hnot, if_neg Bool.false_ne_true]
        cases hparts : cs.splitOnP dividesParts with
        | nil => exact absurd hparts (List.splitOnP_ne_nil _ _)
        | cons part parts => rfl

/-- Whatever stands behind a divider, it is divided as on its own. -/
theorem pathParts_append {d : Char} (hd : dividesParts d) (dirs path : String) :
    pathParts (dirs ++ String.singleton d ++ path) = pathParts dirs ++ pathParts path := by
  have hlist : (dirs ++ String.singleton d ++ path).toList = dirs.toList ++ d :: path.toList := by
    rw [String.toList_append, String.toList_append, String.toList_singleton, List.append_assoc,
      List.singleton_append]
  rw [pathParts, hlist, List.splitOnP_append_cons _ _ hd, List.map_append]
  rfl

/-- Two texts that differ in their dividers only. -/
def SameButDividers (path other : String) : Prop :=
  List.Forall₂ (fun c d => c = d ∨ dividesParts c ∧ dividesParts d) path.toList other.toList

instance (path other : String) : Decidable (SameButDividers path other) :=
  inferInstanceAs (Decidable (List.Forall₂ _ _ _))

/-- It does not show in the parts which dividers a path has. -/
theorem SameButDividers.pathParts_eq {path other : String} (h : SameButDividers path other) :
    pathParts path = pathParts other := by
  unfold SameButDividers at h
  unfold pathParts
  congr 1
  generalize path.toList = cs, other.toList = ds at h
  induction h with
  | nil => rfl
  | cons hchar _ ih =>
    rw [List.splitOnP_cons_eq_if_modifyHead, List.splitOnP_cons_eq_if_modifyHead, ih]
    rcases hchar with rfl | ⟨hc, hd⟩
    · rfl
    · rw [if_pos hc, if_pos hd]

/-! ### The search -/

theorem afterStart_eq_some_iff {start cs rest : List Char} :
    afterStart start cs = some rest ↔ cs = start ++ rest := by
  induction start generalizing cs with
  | nil => rw [afterStart, Option.some.injEq, List.nil_append]
  | cons p ps ih =>
    cases cs with
    | nil => simp [afterStart]
    | cons c cs =>
      rw [afterStart, List.cons_append, List.cons.injEq]
      by_cases h : p = c
      · rw [if_pos h, ih, and_iff_right h.symm]
      · rw [if_neg h]
        constructor
        · intro hnone
          cases hnone
        · rintro ⟨hc, _⟩
          exact absurd hc.symm h

theorem Kind.name_injective {k k' : Kind} (h : k.name = k'.name) : k = k' := by
  have hsome : some k = some k' := by rw [← ofDirName_name k, h, ofDirName_name]
  exact Option.some.inj hsome

theorem Kind.slash_not_mem_name (k : Kind) : '/' ∉ k.name.toList := by
  cases k <;> decide

/-- A text that is a directory name, a slash and a file name has these two parts and no other. -/
theorem segments_eq_pair_iff {name cs file : List Char} (hname : '/' ∉ name) :
    Path.segments '/' cs = [name, file] ↔ cs = name ++ '/' :: file ∧ '/' ∉ file := by
  constructor
  · intro h
    -- The parts with slashes between them give the text back.
    have hcs : cs = name ++ '/' :: file := by
      have hjoin : ['/'].intercalate (cs.splitOn '/') = cs := List.intercalate_splitOn '/'
      rw [← Path.segments_eq_splitOn, h] at hjoin
      simpa [List.intercalate] using hjoin.symm
    refine ⟨hcs, fun hmem => ?_⟩
    -- A slash in the file name would divide the text once more.
    obtain ⟨front, rest, rfl⟩ := List.append_of_mem hmem
    rw [hcs, Path.segments_append hname, Path.segments_append_cons] at h
    have hlength := congrArg List.length h
    have hfront := List.length_pos_of_ne_nil (List.splitOn_ne_nil '/' front)
    have hrest := List.length_pos_of_ne_nil (List.splitOn_ne_nil '/' rest)
    simp only [Path.segments_eq_splitOn, List.length_cons, List.length_append,
      List.length_nil] at hlength
    omega
  · rintro ⟨rfl, hfile⟩
    rw [Path.segments_append hname, Path.segments_of_not_mem hfile]

/-- A test that says of each kind whether it has a property finds the kind that has it, where there
is only one at most. -/
theorem Kind.find?_all_eq_some_iff {test : Kind → Bool} {P : Kind → Prop}
    (htest : ∀ k, test k = true ↔ P k) (hone : ∀ k k', P k → P k' → k = k') {k : Kind} :
    Kind.all.find? test = some k ↔ P k := by
  constructor
  · intro hfound
    exact (htest k).mp (List.find?_some hfound)
  · intro h
    have hsome : (Kind.all.find? test).isSome = true :=
      List.find?_isSome.mpr ⟨k, k.mem_all, (htest k).mpr h⟩
    obtain ⟨k', hk'⟩ := Option.isSome_iff_exists.mp hsome
    rw [hk', hone k' k ((htest k').mp (List.find?_some hk')) h]

/-- **At the start of a part** a kind is told exactly if two parts are left: the name of the kind,
and the name of a file. -/
theorem sniffHere_eq_some_iff {cs : List Char} {k : Kind} :
    sniffHere cs = some k ↔ ∃ file, Path.segments '/' cs = [k.name.toList, file] ∧ file ≠ [] := by
  unfold sniffHere
  refine Kind.find?_all_eq_some_iff (k := k)
    (P := fun k => ∃ file, Path.segments '/' cs = [k.name.toList, file] ∧ file ≠ [])
    (fun k => ?_) ?_
  · -- what the search asks of a single kind
    simp only [segments_eq_pair_iff k.slash_not_mem_name]
    constructor
    · intro h
      split at h
      · next file hrest =>
        rw [Bool.and_eq_true, bne_iff_ne, Bool.not_eq_true', ← Bool.not_eq_true,
          List.contains_iff_mem] at h
        exact ⟨file, ⟨afterStart_eq_some_iff.mp hrest, h.2⟩, h.1⟩
      · cases h
    · rintro ⟨file, ⟨hcs, hslash⟩, hfile⟩
      rw [afterStart_eq_some_iff.mpr hcs]
      simp [hslash, hfile]
  · -- The first of the two parts cannot be the names of two kinds.
    rintro k k' ⟨file, hparts, _⟩ ⟨file', hparts', _⟩
    rw [hparts, List.cons.injEq] at hparts'
    exact Kind.name_injective (String.toList_injective hparts'.1)

/-- Whether the last part is the name of a file, and the part before it is the name of a kind. -/
def EndWithKind (parts : List (List Char)) (k : Kind) : Prop :=
  ∃ front file, parts = front ++ [k.name.toList, file] ∧ file ≠ []

theorem endWithKind_cons {part : List Char} {parts : List (List Char)} {k : Kind} :
    EndWithKind (part :: parts) k ↔
      (∃ file, part :: parts = [k.name.toList, file] ∧ file ≠ []) ∨ EndWithKind parts k := by
  constructor
  · rintro ⟨_ | ⟨first, front⟩, file, hparts, hfile⟩
    · exact .inl ⟨file, hparts, hfile⟩
    · exact .inr ⟨front, file, (List.cons.inj hparts).2, hfile⟩
  · rintro (⟨file, hparts, hfile⟩ | ⟨front, file, hparts, hfile⟩)
    · exact ⟨[], file, hparts, hfile⟩
    · exact ⟨part :: front, file, by rw [hparts, List.cons_append], hfile⟩

theorem not_endWithKind_singleton {part : List Char} {k : Kind} : ¬ EndWithKind [part] k := by
  rintro ⟨front, file, hparts, _⟩
  have hlength := congrArg List.length hparts
  rw [List.length_singleton, List.length_append, List.length_cons, List.length_singleton] at hlength
  omega

/-- Behind a character, the parts after the first are those that a search looks at which knows
whether that character was a slash. -/
theorem tail_segments_cons (c : Char) (cs : List Char) :
    (Path.segments '/' (c :: cs)).tail =
      if c == '/' then Path.segments '/' cs else (Path.segments '/' cs).tail := by
  rw [Path.segments]
  by_cases h : c = '/'
  · rw [if_pos h, if_pos (beq_iff_eq.mpr h), List.tail_cons]
  · rw [if_neg h, if_neg (by simpa using h)]
    cases Path.segments '/' cs with
    | nil => rfl
    | cons part parts => rfl

/-- **The search.** From the start of a part it tells what the parts from there on say; from within
a part it tells what those behind it say. -/
theorem sniffFrom_eq_some_iff {atStart : Bool} {cs : List Char} {k : Kind} :
    sniffFrom atStart cs = some k ↔
      EndWithKind
        (if atStart then Path.segments '/' cs else (Path.segments '/' cs).tail) k := by
  -- The induction goes along the text. A step from a part into the next turns the flag back on,
  -- and the tail of the parts follows it (`tail_segments_cons`).
  fun_induction sniffFrom atStart cs with
  | case1 atStart =>
    cases atStart with
    | false =>
      -- behind the last part there is none
      refine ⟨nofun, ?_⟩
      rintro ⟨front, _, hparts, _⟩
      cases front <;> cases hparts
    | true => exact ⟨nofun, fun h => absurd h not_endWithKind_singleton⟩
  | case2 c cs k' hhere =>
    obtain ⟨file, hparts, hfile⟩ := sniffHere_eq_some_iff.mp hhere
    rw [if_pos rfl, hparts]
    -- Two parts are left, so nothing further down can be meant.
    rw [endWithKind_cons, or_iff_left not_endWithKind_singleton]
    constructor
    · intro h
      cases h
      exact ⟨file, rfl, hfile⟩
    · rintro ⟨file', heq, _⟩
      rw [Kind.name_injective (String.toList_injective (List.cons.inj heq).1)]
  | case3 c cs hhere ih =>
    rw [ih, ← tail_segments_cons, if_pos rfl]
    have hnot : ¬∃ file, Path.segments '/' (c :: cs) = [k.name.toList, file] ∧ file ≠ [] := by
      rw [← sniffHere_eq_some_iff, hhere]
      exact nofun
    cases hsegments : Path.segments '/' (c :: cs) with
    | nil => rfl
    | cons part parts =>
      rw [hsegments] at hnot
      rw [endWithKind_cons, or_iff_right hnot, List.tail_cons]
  | case4 c cs ih => rw [ih, ← tail_segments_cons, if_neg Bool.false_ne_true]

/-- A path tells the kind whose directory its file is in, and no other. -/
theorem sniff_eq_some_iff {path : String} {k : Kind} :
    sniff path = some k ↔ IsDirectlyIn path k := by
  rw [sniff, sniffFrom_eq_some_iff, if_pos rfl, segments_slashed]
  unfold EndWithKind IsDirectlyIn pathParts
  constructor
  · rintro ⟨front, file, hparts, hfile⟩
    refine ⟨front.map String.ofList, String.ofList file, ?_, ?_⟩
    · rw [hparts, List.map_append, List.map_cons, List.map_singleton, String.ofList_toList]
    · rwa [ne_eq, String.ofList_eq_empty_iff]
  · rintro ⟨front, file, hparts, hfile⟩
    refine ⟨front.map String.toList, file.toList, ?_, ?_⟩
    · have hchars := congrArg (List.map String.toList) hparts
      simpa [Function.comp_def] using hchars
    · rwa [ne_eq, String.toList_eq_nil_iff]

/-! ### Paths with the same ending -/

/-- The last two parts of a path, the last one first; there may be only one. -/
def lastParts (path : String) : List String := (pathParts path).reverse.take 2

/-- Which kind a file belongs to shows in the last two parts. -/
theorem isDirectlyIn_iff_lastParts {path : String} {k : Kind} :
    IsDirectlyIn path k ↔ ∃ file, lastParts path = [file, k.name] ∧ file ≠ "" := by
  unfold IsDirectlyIn lastParts
  constructor
  · rintro ⟨front, file, hparts, hfile⟩
    refine ⟨file, ?_, hfile⟩
    rw [hparts, List.reverse_append]
    rfl
  · rintro ⟨file, hlast, hfile⟩
    refine ⟨((pathParts path).reverse.drop 2).reverse, file, ?_, hfile⟩
    have hreverse :
        (pathParts path).reverse = [file, k.name] ++ (pathParts path).reverse.drop 2 := by
      rw [← hlast, List.take_append_drop]
    rw [← List.reverse_inj, List.reverse_append, List.reverse_reverse]
    exact hreverse

theorem sniff_eq_of_lastParts {path other : String} (h : lastParts path = lastParts other) :
    sniff path = sniff other := by
  apply Option.ext
  intro k
  rw [sniff_eq_some_iff, sniff_eq_some_iff, isDirectlyIn_iff_lastParts,
    isDirectlyIn_iff_lastParts, h]

theorem lastParts_append {d : Char} (hd : dividesParts d) (dirs : String) {path : String}
    (h : 2 ≤ (pathParts path).length) :
    lastParts (dirs ++ String.singleton d ++ path) = lastParts path := by
  unfold lastParts
  rw [pathParts_append hd, List.reverse_append, List.take_append_of_le_length]
  rwa [List.length_reverse]

/-- **The containing directory.** A path tells a kind exactly if it has two parts at least, the last
one is not empty and the one before it is the directory name of this kind; no path does so for two
kinds. So the last two parts settle it: neither does it matter which of the dividers stand in the
path, nor which directories are put in front of a path that has a directory already. -/
theorem sniff_looks_at_directory (path : String) :
    (∀ k, sniff path = some k ↔
        ∃ front file, pathParts path = front ++ [k.name, file] ∧ file ≠ "") ∧
      (∀ k k', IsDirectlyIn path k → IsDirectlyIn path k' → k = k') ∧
      (∀ other, lastParts path = lastParts other → sniff path = sniff other) ∧
      (∀ other, SameButDividers path other → sniff path = sniff other) ∧
      ∀ dirs d, dividesParts d → 2 ≤ (pathParts path).length →
        sniff (dirs ++ String.singleton d ++ path) = sniff path := by
  refine ⟨fun k => sniff_eq_some_iff, ?_, fun other h => sniff_eq_of_lastParts h, ?_, ?_⟩
  · intro k k' hk hk'
    have hsome : some k = some k' := by
      rw [← sniff_eq_some_iff.mpr hk, sniff_eq_some_iff.mpr hk']
    exact Option.some.inj hsome
  · intro other h
    apply sniff_eq_of_lastParts
    rw [lastParts, h.pathParts_eq, lastParts]
  · intro dirs d hd h
    exact sniff_eq_of_lastParts (lastParts_append hd dirs h)

/-- The directory of another kind further up does not count, and neither does a longer name. -/
theorem sniff_looks_at_directory_nestedNames :
    SameButDividers "legacies/a.yaml" "legacies\\a.yaml" ∧
      2 ≤ (pathParts "legacies/a.yaml").length ∧
      sniff "legacies\\a.yaml" = some .legacy ∧
      sniff ("profiles/myprofiles" ++ String.singleton '\\' ++ "legacies/a.yaml") =
        some .legacy := by
  have hsame : SameButDividers "legacies/a.yaml" "legacies\\a.yaml" := by decide
  have htwo : 2 ≤ (pathParts "legacies/a.yaml").length := by decide
  obtain ⟨hkind, _, _, hexchange, hfront⟩ := sniff_looks_at_directory "legacies/a.yaml"
  have hlegacy : sniff "legacies/a.yaml" = some .legacy :=
    (hkind .legacy).mpr ⟨[], "a.yaml", by decide, by decide⟩
  refine ⟨hsame, htwo, ?_, ?_⟩
  · rw [← hexchange _ hsame, hlegacy]
  · rw [hfront _ '\\' (by decide) htwo, hlegacy]

end DocCheck
