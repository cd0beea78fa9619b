import DocCheck.Classification

/-!
# Which tokens are files

The tokens of a command line that start with two dashes are mode switches, and each of the others
becomes a file of its own, in its place and under the very path that it spells.

* `Classifier.switches`, `Classifier.isFlag_iff` — the mode switches, and what tells switches from
  files;
* `Classifier.accept_cases` — all that one token can do to the files;
* `paths_of_classify` — the paths of a classified command line;
* `Classification.mem_kinds` — the kinds of a command line are those of its files.
-/

namespace DocCheck

/-- Something remains behind a beginning exactly if the text has that beginning. -/
theorem isSome_afterStart {start cs : List Char} :
    (afterStart start cs).isSome ↔ start <+: cs := by
  induction start generalizing cs with
  | nil => simp [afterStart]
  | cons p ps ih =>
    cases cs with
    | nil => simp [afterStart]
    | cons c cs =>
      rw [afterStart, List.cons_prefix_cons]
      by_cases h : p = c
      · rw [if_pos h, ih]
        exact ⟨fun hs => ⟨h, hs⟩, fun hs => hs.2⟩
      · rw [if_neg h]
        exact ⟨nofun, fun hs => absurd hs.1 h⟩

namespace Classifier

variable {s s' : Classifier} {t : String} {ts : List String}

/-- The mode switches. -/
def switches : List String := ["--profiles", "--legacies", "--sniff", "--nosniff", "--loose"]

theorem isFlag_iff : isFlag t ↔ ['-', '-'] <+: t.toList := isSome_afterStart

/-- A mode switch leaves the files alone. -/
theorem applyFlag_files (h : s.applyFlag t = .ok s') : s'.found.files = s.found.files := by
  unfold applyFlag at h
  -- one case for each switch: all that it changes is a kind, the sniffing or the strictness
  split at h
  · cases h
    rfl
  split at h
  · cases h
    rfl
  split at h
  · cases h
    rfl
  split at h
  · cases h
    rfl
  split at h
  · -- `--loose` is refused behind a file, and unknown switches are refused at any place
    split at h
    · cases h
    · cases h
      rfl
  · cases h

/-- A file that gets a kind is put behind those that were found before. -/
theorem classifyFile_files (h : s.classifyFile t = .ok s') :
    ∃ k, s'.found.files = s.found.files ++ [⟨t, k⟩] := by
  unfold classifyFile at h
  split at h
  · cases h
    exact ⟨_, rfl⟩
  · split at h
    · cases h
      exact ⟨_, rfl⟩
    · cases h
      exact ⟨_, rfl⟩
  · cases h

/-- **One token.** A token that is taken is a switch and leaves the files alone, or it is a file
itself. -/
theorem accept_cases (h : s.accept t = .ok s') :
    (isFlag t = true ∧ s'.found.files = s.found.files) ∨
      (isFlag t = false ∧ ∃ k, s'.found.files = s.found.files ++ [⟨t, k⟩]) := by
  unfold accept at h
  split at h
  · next hf => exact .inl ⟨hf, applyFlag_files h⟩
  · next hf => exact .inr ⟨(Bool.not_eq_true _).mp hf, classifyFile_files h⟩

/-- **All tokens.** The tokens that are no switches become files, in order. -/
theorem acceptAll_paths (h : s.acceptAll ts = .ok s') :
    s'.found.files.map InputFile.path =
      s.found.files.map InputFile.path ++ ts.filter fun t => !isFlag t := by
  -- The classifier carries the files found so far, so the induction is for any of them.
  induction ts generalizing s with
  | nil =>
    cases h
    rw [List.filter_nil, List.append_nil]
  | cons t ts ih =>
    rw [acceptAll] at h
    split at h
    · next s₁ hs₁ =>
      rw [ih h]
      rcases accept_cases hs₁ with ⟨hflag, hfiles⟩ | ⟨hflag, k, hfiles⟩
      · rw [hfiles, List.filter_cons_of_neg (by simp [hflag])]
      · rw [hfiles, List.filter_cons_of_pos (by simp [hflag]), List.map_append, List.append_assoc]
        rfl
    · cases h

/-- Tokens are taken one by one. -/
theorem acceptAll_append (s : Classifier) (ts us : List String) :
    s.acceptAll (ts ++ us) = (s.acceptAll ts).bind fun s' => s'.acceptAll us := by
  induction ts generalizing s with
  | nil => rfl
  | cons t ts ih =>
    rw [List.cons_append, acceptAll, acceptAll]
    cases s.accept t with
    | error e => rfl
    | ok s' => exact ih s'

end Classifier

/-- **Command lines.** The files of a command line are its tokens without two dashes in front, as
they are, in order and as often as they occur. -/
theorem paths_of_classify {tokens : List String} {c : Classification}
    (h : classify tokens = .ok c) :
    c.files.map InputFile.path = tokens.filter fun t => !Classifier.isFlag t := by
  unfold classify at h
  cases hs : Classifier.start.acceptAll tokens with
  | error e =>
    rw [hs] at h
    cases h
  | ok s =>
    rw [hs] at h
    cases h
    exact Classifier.acceptAll_paths hs

theorem Kind.mem_all (k : Kind) : k ∈ Kind.all := by
  cases k <;> decide

theorem Classification.mem_kinds {c : Classification} {k : Kind} :
    k ∈ c.kinds ↔ ∃ f ∈ c.files, f.kind = k := by
  unfold kinds
  rw [List.mem_filter, List.any_eq_true]
  simp only [Kind.mem_all, true_and, beq_iff_eq]

end DocCheck
