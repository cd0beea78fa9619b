import DocCheck.Proofs.Classification
import Mathlib.Data.List.Infix

/-!
# Command lines by the tokens in front

What becomes of a token is settled by the tokens before it, and of these by few: by the last switch
that names a kind or gives one up, by the last switch that turns the look at paths on or off, and by
whether there was a file. So the state that the classifier has reached can be said without running
it (`Classifier.behind`), and so can the tokens that it refuses (`Classifier.Offends`).

* `accept_behind_of_offends`, `accept_behind` — one token behind any others;
* `classify_of_offends`, `classify_of_inoffensive` — whole command lines;
* `classify_describes` — what a classified command line holds;
* `classify_first_offence` — which command lines are refused, and why.
-/

namespace DocCheck.Classifier

variable {before after ts tokens : List String} {t path : String} {e : ConfigError}

/-! ### What the tokens so far say -/

/-- The last of some switches among the tokens so far. -/
def lastSwitch? (among before : List String) : Option String :=
  before.reverse.find? fun t => among.contains t

/-- The kind that a switch names. -/
def switchKind? (switch : String) : Option Kind :=
  if switch = "--profiles" then some .profile
  else if switch = "--legacies" then some .legacy
  else none

/-- The kind in effect behind some tokens: a switch names it, until another one does or `--sniff`
gives it up. -/
def namedKind? (before : List String) : Option Kind :=
  (lastSwitch? ["--profiles", "--legacies", "--sniff"] before).bind switchKind?

/-- Whether the look at paths is off behind some tokens. -/
def IsNosniff (before : List String) : Prop :=
  lastSwitch? ["--sniff", "--nosniff"] before = some "--nosniff"

instance (before : List String) : Decidable (IsNosniff before) :=
  inferInstanceAs (Decidable (_ = _))

/-- The kind of a file behind some tokens: the one in effect, or else the one that its path tells,
or else that of profiles. -/
def kindBehind (before : List String) (path : String) : Kind :=
  (namedKind? before).getD ((sniff path).getD .profile)

/-- Whether nothing tells the kind of a file. -/
def isAssumed (before : List String) (path : String) : Bool :=
  (namedKind? before).isNone && (sniff path).isNone

/-- The files of a command line, each with the tokens before it. -/
def placed (tokens : List String) : List (List String × String) :=
  (tokens.inits.zip tokens).filter fun p => !isFlag p.2

/-- The state behind some tokens. -/
def behind (before : List String) : Classifier where
  explicit := namedKind? before
  sniffing := !decide (IsNosniff before)
  found :=
    { files := (placed before).map fun p => ⟨p.2, kindBehind p.1 p.2⟩
      strictness := if "--loose" ∈ before then .loose else .tight
      assumed := ((placed before).filter fun p => isAssumed p.1 p.2).map Prod.snd }

/-- What is wrong with a token behind others. -/
inductive Offends (before : List String) : String → ConfigError → Prop where
  /-- It looks like a switch and is none. -/
  | unknown {t : String} (hflag : isFlag t = true) (hunknown : t ∉ switches) :
      Offends before t (.unknownFlag t)
  /-- It changes the strictness, and there was a file. -/
  | late {first : String} (hfirst : before.find? (fun u => !isFlag u) = some first) :
      Offends before "--loose" (.orderViolation "--loose" first)
  /-- It is a file, no kind is in effect, and the look at paths is off. -/
  | unclassified {path : String} (hfile : isFlag path = false) (hkind : namedKind? before = none)
      (hsniff : IsNosniff before) : Offends before path (.unclassified path)

/-- Whether no token is wrong behind those before it. -/
def Inoffensive (tokens : List String) : Prop :=
  ∀ before t after, tokens = before ++ t :: after → ∀ e, ¬ Offends before t e

/-! ### One token more -/

/-- A switch is the last one from where it stands. -/
theorem lastSwitch?_concat (among : List String) :
    lastSwitch? among (before ++ [t]) =
      if t ∈ among then some t else lastSwitch? among before := by
  unfold lastSwitch?
  rw [List.reverse_append, List.reverse_singleton, List.singleton_append, List.find?_cons]
  by_cases h : t ∈ among
  · rw [if_pos h, List.contains_iff_mem.mpr h]
  · have hnot : among.contains t = false := by simpa using h
    rw [if_neg h, hnot]

theorem namedKind?_concat_of_mem (h : t ∈ ["--profiles", "--legacies", "--sniff"]) :
    namedKind? (before ++ [t]) = switchKind? t := by
  rw [namedKind?, lastSwitch?_concat, if_pos h, Option.bind_some]

theorem namedKind?_concat_of_not_mem (h : t ∉ ["--profiles", "--legacies", "--sniff"]) :
    namedKind? (before ++ [t]) = namedKind? before := by
  rw [namedKind?, lastSwitch?_concat, if_neg h, namedKind?]

theorem isNosniff_concat_of_mem (h : t ∈ ["--sniff", "--nosniff"]) :
    IsNosniff (before ++ [t]) ↔ t = "--nosniff" := by
  rw [IsNosniff, lastSwitch?_concat, if_pos h, Option.some_inj]

theorem isNosniff_concat_of_not_mem (h : t ∉ ["--sniff", "--nosniff"]) :
    IsNosniff (before ++ [t]) ↔ IsNosniff before := by
  rw [IsNosniff, lastSwitch?_concat, if_neg h, IsNosniff]

theorem zip_inits_concat (ts : List String) (t : String) :
    (ts ++ [t]).inits.zip (ts ++ [t]) = ts.inits.zip ts ++ [(ts, t)] := by
  induction ts with
  | nil => rfl
  | cons u ts ih =>
    rw [List.cons_append, List.inits_cons, List.inits_cons, List.zip_cons_cons, List.zip_map_left,
      ih, List.map_append, List.zip_cons_cons, List.zip_map_left]
    rfl

theorem placed_concat_of_flag (h : isFlag t = true) : placed (before ++ [t]) = placed before := by
  rw [placed, zip_inits_concat, List.filter_append, List.filter_cons_of_neg (by simp [h]),
    List.filter_nil, List.append_nil, placed]

theorem placed_concat_of_file (h : isFlag t = false) :
    placed (before ++ [t]) = placed before ++ [(before, t)] := by
  rw [placed, zip_inits_concat, List.filter_append, List.filter_cons_of_pos (by simp [h]),
    List.filter_nil, placed]

theorem placed_map_snd (tokens : List String) :
    (placed tokens).map Prod.snd = tokens.filter fun t => !isFlag t := by
  have hzip : (tokens.inits.zip tokens).map Prod.snd = tokens :=
    List.map_snd_zip (by simp)
  conv_rhs => rw [← hzip, List.filter_map]
  rfl

theorem head?_files_behind (before : List String) :
    ((behind before).found.files.head?).map InputFile.path =
      before.find? fun u => !isFlag u := by
  rw [← List.head?_map, ← List.head?_filter, ← placed_map_snd]
  simp [behind, Function.comp_def]

theorem isFlag_of_mem_switches (h : t ∈ switches) : isFlag t = true := by
  revert t
  decide

/-! ### Steps -/

/-- A state that says what the tokens say is the state behind them. -/
theorem eq_behind {s : Classifier} (hexplicit : s.explicit = namedKind? ts)
    (hsniffing : s.sniffing = !decide (IsNosniff ts)) (hfound : s.found = (behind ts).found) :
    s = behind ts := by
  obtain ⟨explicit, sniffing, found⟩ := s
  simp only at hexplicit hsniffing hfound
  subst hexplicit hsniffing hfound
  rfl

theorem explicit_behind_concat (h : t ∉ ["--profiles", "--legacies", "--sniff"]) :
    (behind before).explicit = namedKind? (before ++ [t]) :=
  (namedKind?_concat_of_not_mem h).symm

theorem sniffing_behind_concat (h : t ∉ ["--sniff", "--nosniff"]) :
    (behind before).sniffing = !decide (IsNosniff (before ++ [t])) := by
  simp only [isNosniff_concat_of_not_mem h]
  rfl

theorem found_behind_concat_of_flag (h : isFlag t = true) :
    (behind (before ++ [t])).found =
      { (behind before).found with
        strictness := if "--loose" ∈ before ++ [t] then .loose else .tight } := by
  simp only [behind, placed_concat_of_flag h]

theorem found_behind_concat (h : isFlag t = true) (hloose : t ≠ "--loose") :
    (behind (before ++ [t])).found = (behind before).found := by
  have hmem : "--loose" ∈ before ++ [t] ↔ "--loose" ∈ before := by simp [hloose.symm]
  simp only [found_behind_concat_of_flag h, hmem]
  rfl

theorem applyFlag_loose_of_nil {s : Classifier} (h : s.found.files = []) :
    s.applyFlag "--loose" = .ok { s with found := { s.found with strictness := .loose } } := by
  simp [applyFlag, h]

theorem applyFlag_loose_of_cons {s : Classifier} {first : InputFile} {rest : List InputFile}
    (h : s.found.files = first :: rest) :
    s.applyFlag "--loose" = .error (.orderViolation "--loose" first.path) := by
  simp [applyFlag, h]

/-- **Refusals.** Behind any tokens, a token that is wrong there is refused for this reason. -/
theorem accept_behind_of_offends (h : Offends before t e) : (behind before).accept t = .error e := by
  cases h with
  | unknown hflag hunknown =>
    have hnone : t ≠ "--profiles" ∧ t ≠ "--legacies" ∧ t ≠ "--sniff" ∧ t ≠ "--nosniff" ∧
        t ≠ "--loose" := by simpa [switches] using hunknown
    obtain ⟨hprofiles, hlegacies, hsniff, hnosniff, hloose⟩ := hnone
    rw [accept, if_pos hflag, applyFlag, if_neg hprofiles, if_neg hlegacies, if_neg hsniff,
      if_neg hnosniff, if_neg hloose]
  | @late first hfirst =>
    have hhead := head?_files_behind before
    rw [hfirst] at hhead
    obtain ⟨file, hfile, hpath⟩ := Option.map_eq_some_iff.mp hhead
    obtain ⟨rest, hfiles⟩ := List.head?_eq_some_iff.mp hfile
    rw [accept, if_pos (by decide), applyFlag_loose_of_cons hfiles, hpath]
  | unclassified hfile hkind hsniff =>
    have hmode : (behind before).mode = .disabled := by
      simp [mode, behind, hkind, hsniff]
    rw [accept, if_neg (by simp [hfile]), classifyFile, hmode]

/-- Behind any tokens a switch that is not wrong there is taken, and behind it the tokens say what
the state says. -/
theorem accept_behind_of_switch (ht : t ∈ switches) (h : ∀ e, ¬ Offends before t e) :
    (behind before).accept t = .ok (behind (before ++ [t])) := by
  have hflag : isFlag t = true := isFlag_of_mem_switches ht
  have hlast : t = "--profiles" ∨ t = "--legacies" ∨ t = "--sniff" ∨ t = "--nosniff" ∨
      t = "--loose" := by simpa [switches] using ht
  rw [accept, if_pos hflag]
  rcases hlast with rfl | rfl | rfl | rfl | rfl
  · have hkind : namedKind? (before ++ ["--profiles"]) = some .profile :=
      namedKind?_concat_of_mem (by decide)
    exact congrArg Except.ok (eq_behind hkind.symm (sniffing_behind_concat (by decide))
      (found_behind_concat hflag (by decide)).symm)
  · have hkind : namedKind? (before ++ ["--legacies"]) = some .legacy :=
      namedKind?_concat_of_mem (by decide)
    exact congrArg Except.ok (eq_behind hkind.symm (sniffing_behind_concat (by decide))
      (found_behind_concat hflag (by decide)).symm)
  · -- the one switch that both rules look at
    have hkind : namedKind? (before ++ ["--sniff"]) = none :=
      namedKind?_concat_of_mem (by decide)
    have hon : ¬ IsNosniff (before ++ ["--sniff"]) := by
      rw [isNosniff_concat_of_mem (by decide)]
      decide
    exact congrArg Except.ok (eq_behind hkind.symm (by simp [hon])
      (found_behind_concat hflag (by decide)).symm)
  · have hoff : IsNosniff (before ++ ["--nosniff"]) := by
      rw [isNosniff_concat_of_mem (by decide)]
    exact congrArg Except.ok (eq_behind (explicit_behind_concat (by decide)) (by simp [hoff])
      (found_behind_concat hflag (by decide)).symm)
  · -- as `--loose` is not wrong there, no file has been found
    have hnone : (behind before).found.files = [] := by
      cases hfiles : (behind before).found.files with
      | nil => rfl
      | cons file rest =>
        have hhead := head?_files_behind before
        rw [hfiles] at hhead
        exact absurd (Offends.late hhead.symm) (h _)
    rw [applyFlag_loose_of_nil hnone]
    refine congrArg Except.ok (eq_behind (explicit_behind_concat (by decide))
      (sniffing_behind_concat (by decide)) ?_)
    rw [found_behind_concat_of_flag hflag, if_pos (by simp)]

/-- Behind any tokens a file that is not wrong there is taken, with the kind that they say. -/
theorem accept_behind_of_file (hfile : isFlag t = false) (h : ∀ e, ¬ Offends before t e) :
    (behind before).accept t = .ok (behind (before ++ [t])) := by
  have hnot : ∀ switches' ⊆ switches, t ∉ switches' := by
    intro switches' hsub hmem
    rw [isFlag_of_mem_switches (hsub hmem)] at hfile
    cases hfile
  have hkind : namedKind? (before ++ [t]) = namedKind? before :=
    namedKind?_concat_of_not_mem (hnot _ (by decide))
  have hsniff : IsNosniff (before ++ [t]) ↔ IsNosniff before :=
    isNosniff_concat_of_not_mem (hnot _ (by decide))
  have hloose : "--loose" ∈ before ++ [t] ↔ "--loose" ∈ before := by
    have hne : "--loose" ≠ t := by
      rintro rfl
      exact absurd hfile (by decide)
    simp [hne]
  -- the state behind the file: one file more, and perhaps one whose path told nothing
  have hbehind : behind (before ++ [t]) =
      { behind before with
        found :=
          { (behind before).found with
            files := (behind before).found.files ++ [⟨t, kindBehind before t⟩]
            assumed := (behind before).found.assumed ++
              if isAssumed before t then [t] else [] } } := by
    simp only [behind, hkind, hsniff, hloose, placed_concat_of_file hfile, List.map_append,
      List.filter_append]
    -- whether nothing told the kind decides whether the file is among those to warn about
    cases hassumed : isAssumed before t <;> simp [hassumed]
  rw [accept, if_neg (by simp [hfile]), hbehind]
  cases hnamed : namedKind? before with
  | some k =>
    have hmode : (behind before).mode = .explicit k := by simp [mode, behind, hnamed]
    rw [classifyFile, hmode]
    simp [addFile, kindBehind, isAssumed, hnamed]
  | none =>
    have hon : ¬ IsNosniff before := fun hoff => h _ (.unclassified hfile hnamed hoff)
    have hmode : (behind before).mode = .sniff := by simp [mode, behind, hnamed, hon]
    rw [classifyFile, hmode]
    cases hpath : DocCheck.sniff t with
    | some k => simp [addFile, kindBehind, isAssumed, hnamed, hpath]
    | none => simp [addFile, assumeProfile, kindBehind, isAssumed, hnamed, hpath]

/-- **One token.** Behind any tokens, a token that is not wrong there is taken, and the state is the
one behind all of them. -/
theorem accept_behind (h : ∀ e, ¬ Offends before t e) :
    (behind before).accept t = .ok (behind (before ++ [t])) := by
  cases hflag : isFlag t with
  | false => exact accept_behind_of_file hflag h
  | true =>
    refine accept_behind_of_switch ?_ h
    by_contra hunknown
    exact h _ (.unknown hflag hunknown)

/-! ### Runs -/

theorem inoffensive_nil : Inoffensive [] := by
  intro before t after h
  simp at h

/-- A command line goes on well with a token that is not wrong behind it. -/
theorem inoffensive_concat :
    Inoffensive (ts ++ [t]) ↔ Inoffensive ts ∧ ∀ e, ¬ Offends ts t e := by
  constructor
  · intro h
    refine ⟨fun before u after hts => ?_, h ts t [] rfl⟩
    exact h before u (after ++ [t]) (by rw [hts]; simp)
  · rintro ⟨hts, ht⟩ before u after heq
    rcases List.eq_nil_or_concat after with rfl | ⟨after', v, rfl⟩
    · -- the token that is added
      obtain ⟨rfl, hlast⟩ := List.append_inj' heq rfl
      obtain rfl : t = u := by simpa using hlast
      exact ht
    · have hinit : ts ++ [t] = (before ++ u :: after') ++ [v] := by
        rw [heq]
        simp
      exact hts before u after' (List.append_inj' hinit rfl).1

/-- **All tokens.** Tokens of which none is wrong are all taken, and lead to the state that they
say. -/
theorem acceptAll_of_inoffensive (h : Inoffensive ts) : start.acceptAll ts = .ok (behind ts) := by
  -- from the left: what a token meets is settled by those before it
  induction ts using List.reverseRecOn with
  | nil => rfl
  | append_singleton ts t ih =>
    obtain ⟨hts, ht⟩ := inoffensive_concat.mp h
    rw [acceptAll_append, ih hts]
    change (behind ts).acceptAll [t] = _
    rw [acceptAll, accept_behind ht]
    rfl

theorem acceptAll_of_offends (hbefore : Inoffensive before) (ht : Offends before t e)
    (after : List String) : start.acceptAll (before ++ t :: after) = .error e := by
  rw [acceptAll_append, acceptAll_of_inoffensive hbefore]
  change (behind before).acceptAll (t :: after) = _
  rw [acceptAll, accept_behind_of_offends ht]

/-- Either no token is wrong, or there is a first one. -/
theorem inoffensive_or_first (tokens : List String) :
    Inoffensive tokens ∨ ∃ before t after e, tokens = before ++ t :: after ∧
      Inoffensive before ∧ Offends before t e := by
  induction tokens using List.reverseRecOn with
  | nil => exact .inl inoffensive_nil
  | append_singleton ts t ih =>
    rcases ih with hts | ⟨before, u, after, e, rfl, hbefore, hu⟩
    · by_cases ht : ∃ e, Offends ts t e
      · obtain ⟨e, he⟩ := ht
        exact .inr ⟨ts, t, [], e, rfl, hts, he⟩
      · exact .inl (inoffensive_concat.mpr ⟨hts, not_exists.mp ht⟩)
    · exact .inr ⟨before, u, after ++ [t], e, by simp, hbefore, hu⟩

end DocCheck.Classifier

namespace DocCheck

open Classifier (Offends Inoffensive behind isFlag placed kindBehind isAssumed)

variable {before tokens : List String} {t : String} {e : ConfigError} {c : Classification}

theorem classify_of_inoffensive (h : Inoffensive tokens) :
    classify tokens = .ok (behind tokens).found := by
  rw [classify, Classifier.acceptAll_of_inoffensive h]
  rfl

theorem classify_of_offends (hbefore : Inoffensive before) (ht : Offends before t e)
    (after : List String) : classify (before ++ t :: after) = .error e := by
  rw [classify, Classifier.acceptAll_of_offends hbefore ht]
  rfl

theorem eq_found_of_classify (h : classify tokens = .ok c) :
    Inoffensive tokens ∧ c = (behind tokens).found := by
  rcases Classifier.inoffensive_or_first tokens with hok | ⟨before, t, after, e, rfl, hb, ht⟩
  · rw [classify_of_inoffensive hok] at h
    exact ⟨hok, (Except.ok.inj h).symm⟩
  · rw [classify_of_offends hb ht] at h
    cases h

/-! ### What a classified command line holds -/

/-- The files of the first tokens are the first files. -/
theorem placed_isPrefix (ts us : List String) : placed ts <+: placed (ts ++ us) := by
  induction us using List.reverseRecOn with
  | nil => rw [List.append_nil]
  | append_singleton us u ih =>
    rw [← List.append_assoc]
    cases hu : isFlag u with
    | true => rwa [Classifier.placed_concat_of_flag hu]
    | false =>
      rw [Classifier.placed_concat_of_file hu]
      exact ih.trans (List.prefix_append _ _)

/-- A file comes behind as many others as there are before it. -/
theorem getElem?_placed {after : List String} (h : isFlag t = false) :
    (placed (before ++ t :: after))[(before.filter fun u => !isFlag u).length]? =
      some (before, t) := by
  -- as many files are placed behind `before` as it has tokens that are files
  have hlength : (before.filter fun u => !isFlag u).length = (placed before).length := by
    rw [← Classifier.placed_map_snd, List.length_map]
  have hprefix : placed before ++ [(before, t)] <+: placed (before ++ t :: after) := by
    have := placed_isPrefix (before ++ [t]) after
    rwa [Classifier.placed_concat_of_file h, List.append_assoc, List.singleton_append] at this
  obtain ⟨rest, hrest⟩ := hprefix
  rw [hlength, ← hrest, List.append_assoc, List.getElem?_append_right (Nat.le_refl _), Nat.sub_self]
  rfl

/-- What a classified command line holds, said by its tokens. -/
structure Classification.Describes (c : Classification) (tokens : List String) : Prop where
  /-- The files are the tokens without two dashes in front, as they are and in order. -/
  paths_eq : c.files.map InputFile.path = tokens.filter fun t => !isFlag t
  /-- Each of them has the kind that the tokens before it say. -/
  file_at : ∀ before t after, tokens = before ++ t :: after → isFlag t = false →
    c.files[(before.filter fun u => !isFlag u).length]? = some ⟨t, kindBehind before t⟩
  /-- A file is warned about if no kind was in effect and its path told none. -/
  assumed_eq : c.assumed = ((placed tokens).filter fun p => isAssumed p.1 p.2).map Prod.snd
  /-- Only `--loose` makes a run loose. -/
  strictness_eq_loose_iff : c.strictness = .loose ↔ "--loose" ∈ tokens
  /-- It stands before any file. -/
  flags_before_loose : ∀ before after, tokens = before ++ "--loose" :: after →
    ∀ t ∈ before, isFlag t = true
  /-- The profiles are the files of this kind, in order. -/
  profiles_eq : c.profiles =
    ((placed tokens).filter fun p => kindBehind p.1 p.2 == .profile).map Prod.snd
  /-- The legacy documents are all others, in order. -/
  legacies_eq : c.legacies =
    ((placed tokens).filter fun p => !(kindBehind p.1 p.2 == .profile)).map Prod.snd
  /-- The kinds are those that some file has. -/
  mem_kinds_iff : ∀ k, k ∈ c.kinds ↔ c.pathsOf k ≠ []
  /-- Each kind is listed once, in the order of kinds. -/
  kinds_sublist : c.kinds.Sublist Kind.all

theorem pathsOf_behind (tokens : List String) (k : Kind) :
    (behind tokens).found.pathsOf k =
      ((placed tokens).filter fun p => kindBehind p.1 p.2 == k).map Prod.snd := by
  simp only [Classification.pathsOf, behind, List.filter_map, List.map_map]
  rfl

/-- **Classified command lines.** A classified command line holds what its tokens say: for a file
the last switch before it that names a kind or gives one up settles the kind, and the path does
where this was `--sniff` or there was none. -/
theorem classify_describes (h : classify tokens = .ok c) : c.Describes tokens := by
  have hpaths := paths_of_classify h
  obtain ⟨hok, rfl⟩ := eq_found_of_classify h
  refine
    { paths_eq := hpaths
      file_at := ?_
      assumed_eq := rfl
      strictness_eq_loose_iff := ?_
      flags_before_loose := ?_
      profiles_eq := pathsOf_behind tokens .profile
      legacies_eq := ?_
      mem_kinds_iff := ?_
      kinds_sublist := List.filter_sublist }
  · intro before t after htokens ht
    subst htokens
    simp only [behind, List.getElem?_map, getElem?_placed ht]
    rfl
  · by_cases hloose : "--loose" ∈ tokens <;> simp [behind, hloose]
  · intro before after htokens t ht
    -- a file before it would make `--loose` wrong
    by_contra hfile
    obtain ⟨first, hfirst⟩ : ∃ first, before.find? (fun u => !isFlag u) = some first :=
      Option.isSome_iff_exists.mp (List.find?_isSome.mpr ⟨t, ht, by simpa using hfile⟩)
    exact hok before "--loose" after htokens _ (.late hfirst)
  · have hother : ∀ k : Kind, (k == .legacy) = !(k == .profile) := by
      intro k
      cases k <;> rfl
    rw [Classification.legacies, pathsOf_behind]
    simp only [hother]
  · intro k
    rw [Classification.mem_kinds, Classification.pathsOf, ne_eq, List.map_eq_nil_iff,
      List.filter_eq_nil_iff]
    simp

/-- Tokens with each of the switches among files. -/
def mixedTokens : List String :=
  ["--loose", "--nosniff", "--legacies", "profiles/a", "--sniff", "legacies/b", "c", "--profiles",
    "legacies/d"]

/-- A kind in effect wins over the path, and `--sniff` gives it up. -/
theorem classify_describes_mixedTokens :
    classify mixedTokens = .ok
      ⟨[⟨"profiles/a", .legacy⟩, ⟨"legacies/b", .legacy⟩, ⟨"c", .profile⟩,
        ⟨"legacies/d", .profile⟩], .loose, ["c"]⟩ ∧
      Classification.Describes
        ⟨[⟨"profiles/a", .legacy⟩, ⟨"legacies/b", .legacy⟩, ⟨"c", .profile⟩,
          ⟨"legacies/d", .profile⟩], .loose, ["c"]⟩ mixedTokens := by
  have h : classify mixedTokens = .ok
      ⟨[⟨"profiles/a", .legacy⟩, ⟨"legacies/b", .legacy⟩, ⟨"c", .profile⟩,
        ⟨"legacies/d", .profile⟩], .loose, ["c"]⟩ := by decide
  exact ⟨h, classify_describes h⟩

/-! ### Which command lines are refused -/

/-- **Refused command lines.** A command line is refused exactly if some token is wrong behind
those before it. The error is that of the first such token, which is the same whatever stands after
it, and a `--loose` that comes too late is told the first file of the whole command line. -/
theorem classify_first_offence (tokens : List String) :
    ((∃ e, classify tokens = .error e) ↔
      ∃ before t after e, tokens = before ++ t :: after ∧ Offends before t e) ∧
    (∀ e, classify tokens = .error e ↔
      ∃ before t after, tokens = before ++ t :: after ∧ Inoffensive before ∧ Offends before t e ∧
        ∀ others, classify (before ++ t :: others) = .error e) ∧
    ∀ flag first, classify tokens = .error (.orderViolation flag first) →
      flag = "--loose" ∧ tokens.find? (fun t => !isFlag t) = some first := by
  have hfirst : ∀ e, classify tokens = .error e ↔
      ∃ before t after, tokens = before ++ t :: after ∧ Inoffensive before ∧
        Offends before t e ∧ ∀ others, classify (before ++ t :: others) = .error e := by
    intro e
    constructor
    · intro h
      rcases Classifier.inoffensive_or_first tokens with hok | ⟨before, t, after, e', rfl, hb, ht⟩
      · rw [classify_of_inoffensive hok] at h
        cases h
      · rw [classify_of_offends hb ht] at h
        cases h
        exact ⟨before, t, after, rfl, hb, ht, classify_of_offends hb ht⟩
    · rintro ⟨before, t, after, rfl, _, _, hall⟩
      exact hall after
  refine ⟨?_, hfirst, ?_⟩
  · constructor
    · rintro ⟨e, he⟩
      obtain ⟨before, t, after, htokens, _, ht, _⟩ := (hfirst e).mp he
      exact ⟨before, t, after, e, htokens, ht⟩
    · rintro ⟨before, t, after, e, htokens, ht⟩
      -- some token is wrong, so there is a first one
      rcases Classifier.inoffensive_or_first tokens with hok | ⟨b, u, a, e', rfl, hb, hu⟩
      · exact absurd ht (hok before t after htokens e)
      · exact ⟨e', classify_of_offends hb hu a⟩
  · intro flag first h
    obtain ⟨before, t, after, rfl, _, ht, _⟩ := (hfirst _).mp h
    cases ht with
    | late hfind => exact ⟨rfl, by rw [List.find?_append, hfind, Option.some_or]⟩

end DocCheck
