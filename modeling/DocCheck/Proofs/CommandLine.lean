import DocCheck.CommandLine
import Mathlib.Data.List.Basic
import Mathlib.Data.List.TakeWhile

/-!
# The tokens behind the options

Everything behind the options for log lines reaches the classifier, the mark `--` included. Reading
takes such a mark away, and it is put back by another look at the arguments, which has to agree with
the reading on what an option for log lines is. They agree: both take a token for one exactly if it
is a cluster, one dash and then letters `v` (`IsCluster`).

The other side is said without either of them: what reaches the classifier is what remains of the
arguments once the clusters in front are dropped, and nothing does if the first of the remaining
tokens asks for a text about the program (`AsksForText`).

Little is relied on of the reading (`PassesOn`): it passes over clusters, takes a mark right behind
them away, and leaves everything from the next token on as it is. Whatever reads like this has its
tokens put right, and `readArguments` does.

* `isVerbosity_text`, `readOption_cases` — the two looks at a token;
* `readFrom_eq_run_iff` — when the reading comes to a run, and to which;
* `PassesOn.eq_withoutMark` — the tokens of a run, however it was read;
* `restoreMark_texts` — where the mark is put back;
* `tokens_reach_classifier` — both together.
-/

namespace DocCheck.CommandLine

variable {t : String} {ts tokens read : List String} {cs : List Char} {n v : Nat}

/-! ### Clusters -/

/-- **Clusters.** One dash and one or more letters `v`. -/
def IsCluster (t : String) : Prop := ∃ n, t.toList = '-' :: List.replicate (n + 1) 'v'

theorem isCluster_iff : IsCluster t ↔ ∃ cs, t.toList = '-' :: cs ∧ cs ≠ [] ∧ ∀ c ∈ cs, c = 'v' := by
  constructor
  · rintro ⟨n, ht⟩
    refine ⟨_, ht, ?_, fun c hc => List.eq_of_mem_replicate hc⟩
    exact List.cons_ne_nil _ _
  · rintro ⟨_ | ⟨c, cs⟩, ht, hne, hall⟩
    · exact absurd rfl hne
    · have hletters : c :: cs = List.replicate (cs.length + 1) 'v' :=
        List.eq_replicate_iff.mpr ⟨rfl, hall⟩
      exact ⟨cs.length, by rw [ht, hletters]⟩

theorem isCluster_iff_of_dash {c : Char} (ht : t.toList = '-' :: c :: cs) :
    IsCluster t ↔ ∀ c' ∈ c :: cs, c' = 'v' := by
  rw [isCluster_iff]
  constructor
  · rintro ⟨cs', hcs, _, hall⟩
    obtain rfl := (List.cons.inj (ht.symm.trans hcs)).2
    exact hall
  · intro hall
    exact ⟨c :: cs, ht, List.cons_ne_nil _ _, hall⟩

/-- The look at the arguments takes clusters for options for log lines, and nothing else. -/
theorem isVerbosity_text : (Argument.text t).isVerbosity = true ↔ IsCluster t := by
  rw [isCluster_iff, Argument.isVerbosity]
  split
  · next letters ht =>
    rw [Bool.and_eq_true, Bool.not_eq_true', List.isEmpty_eq_false_iff, List.all_eq_true]
    simp only [beq_iff_eq]
    constructor
    · rintro ⟨hne, hall⟩
      exact ⟨letters, ht, hne, hall⟩
    · rintro ⟨cs, hcs, hne, hall⟩
      obtain rfl : letters = cs := (List.cons.inj (ht.symm.trans hcs)).2
      exact ⟨hne, hall⟩
  · next hno =>
    refine ⟨nofun, ?_⟩
    rintro ⟨cs, hcs, _⟩
    exact absurd hcs (hno cs)

instance (t : String) : Decidable (IsCluster t) := decidable_of_iff _ isVerbosity_text

/-- How many log lines clusters ask for. -/
def letterCount (ts : List String) : Nat := (ts.flatMap String.toList).count 'v'

@[simp] theorem letterCount_nil : letterCount [] = 0 := rfl

theorem letterCount_cons : letterCount (t :: ts) = t.toList.count 'v' + letterCount ts := by
  rw [letterCount, List.flatMap_cons, List.count_append, letterCount]

/-! ### Options -/

/-- Whether the letters behind a dash are all known. -/
def AreKnown (cs : List Char) : Prop := ∀ c ∈ cs, c ∈ ['v', 'h', 'V']

/-- **Texts about the program** are asked for by a cluster that holds a letter for help or for the
version, and by a long name, with or without a value. -/
inductive AsksForText (t : String) : Prop where
  /-- Some letter asks for more than log lines, and no letter is unknown. -/
  | letters {cs : List Char} (ht : t.toList = '-' :: cs) (hknown : AreKnown cs)
      (hother : ∃ c ∈ cs, c ≠ 'v')
  /-- A long name. -/
  | name (option : LongOption) (ht : t = "--" ++ option.name)
  /-- A long name and a value, though it takes none. -/
  | value (option : LongOption) (value : String) (ht : t = "--" ++ option.name ++ "=" ++ value)

/-- Whether a request is a run. -/
def Request.IsRun : Request → Prop
  | .run _ _ => True
  | _ => False

theorem all_contains_iff : cs.all "vhV".toList.contains = true ↔ AreKnown cs := by
  rw [List.all_eq_true, AreKnown]
  have hletters : "vhV".toList = ['v', 'h', 'V'] := by decide
  simp only [hletters, List.contains_iff_mem]

theorem areKnown_cons {c : Char} : AreKnown (c :: cs) ↔ c ∈ ['v', 'h', 'V'] ∧ AreKnown cs :=
  List.forall_mem_cons

theorem areKnown_of_textLetter {c : Char} (hc : c ∈ ['h', 'V'])
    (hall : cs.all "vhV".toList.contains = true) :
    AreKnown (c :: cs) ∧ ∃ c' ∈ c :: cs, c' ≠ 'v' := by
  have hletter : c ∈ ['v', 'h', 'V'] ∧ c ≠ 'v' := by
    rcases List.mem_pair.mp hc with rfl | rfl <;> decide
  exact ⟨areKnown_cons.mpr ⟨hletter.1, all_contains_iff.mp hall⟩, c, List.mem_cons_self, hletter.2⟩

/-- **The letters behind a dash** all ask for log lines, or they are known and some ask for a text,
or some are unknown and nothing is read. -/
theorem readLetters_cases (cs : List Char) (n : Nat) :
    ((∀ c ∈ cs, c = 'v') ∧ readLetters cs n = some (.inl (n + cs.length))) ∨
      (AreKnown cs ∧ (∃ c ∈ cs, c ≠ 'v') ∧ ∃ r, readLetters cs n = some (.inr r) ∧ ¬ r.IsRun) ∨
      (¬ AreKnown cs ∧ readLetters cs n = none) := by
  fun_induction readLetters cs n with
  | case1 n => exact .inl ⟨nofun, rfl⟩
  | case2 cs n ih =>
    -- a letter for log lines is known, so the rest tells
    rcases ih with ⟨hall, hread⟩ | ⟨hknown, ⟨c, hc, hother⟩, hread⟩ | ⟨hknown, hread⟩
    · refine .inl ⟨List.forall_mem_cons.mpr ⟨rfl, hall⟩, ?_⟩
      rw [hread, List.length_cons, Nat.add_right_comm, Nat.add_assoc]
    · exact .inr (.inl ⟨areKnown_cons.mpr ⟨by decide, hknown⟩,
        ⟨c, List.mem_cons_of_mem _ hc, hother⟩, hread⟩)
    · exact .inr (.inr ⟨fun h => hknown (areKnown_cons.mp h).2, hread⟩)
  | case3 cs n hall =>
    obtain ⟨hknown, hother⟩ := areKnown_of_textLetter (c := 'h') (by decide) hall
    exact .inr (.inl ⟨hknown, hother, .help false, rfl, not_false⟩)
  | case4 cs n hall =>
    exact .inr (.inr ⟨fun h => hall (all_contains_iff.mpr (areKnown_cons.mp h).2), rfl⟩)
  | case5 cs n hall =>
    obtain ⟨hknown, hother⟩ := areKnown_of_textLetter (c := 'V') (by decide) hall
    exact .inr (.inl ⟨hknown, hother, .version, rfl, not_false⟩)
  | case6 cs n hall =>
    exact .inr (.inr ⟨fun h => hall (all_contains_iff.mpr (areKnown_cons.mp h).2), rfl⟩)
  | case7 cs n hnil hv hh hV =>
    -- the letter in front is none of the three
    cases cs with
    | nil => exact absurd rfl hnil
    | cons c cs =>
      refine .inr (.inr ⟨fun h => ?_, rfl⟩)
      have hc : c = 'v' ∨ c = 'h' ∨ c = 'V' := by simpa using (areKnown_cons.mp h).1
      rcases hc with rfl | rfl | rfl
      · exact hv cs rfl
      · exact hh cs rfl
      · exact hV cs rfl

/-- The name of an option, with or without a value, is what stands before the first `=`. -/
theorem takeWhile_eq_iff {word name : List Char} (hname : '=' ∉ name) :
    word.takeWhile (· != '=') = name ↔ word = name ∨ ∃ value, word = name ++ '=' :: value := by
  have hall : ∀ c ∈ name, (c != '=') = true := by
    intro c hc
    rw [bne_iff_ne]
    rintro rfl
    exact hname hc
  constructor
  · rintro rfl
    have hsplit := List.takeWhile_append_dropWhile (p := (· != '=')) (l := word)
    -- what is left is empty, or it begins with the `=` that ended the name
    cases hrest : word.dropWhile (· != '=') with
    | nil =>
      rw [hrest, List.append_nil] at hsplit
      exact .inl hsplit.symm
    | cons c value =>
      have hc : c = '=' := by
        have hhead := List.head?_dropWhile_not (· != '=') word
        rw [hrest] at hhead
        simpa using hhead
      rw [hrest, hc] at hsplit
      exact .inr ⟨value, hsplit.symm⟩
  · rintro (rfl | ⟨value, rfl⟩)
    · exact List.takeWhile_eq_self_iff.mpr hall
    · rw [List.takeWhile_append_of_pos hall]
      simp

/-- A name behind two dashes asks for a text about the program, or there is no such name. -/
theorem readName_cases (word : String) (value : Option String) (n : Nat) :
    ((∃ option : LongOption, option.name = word) ∧
        ∃ r, readName word value n = some r ∧ ¬ r.IsRun) ∨
      ((¬∃ option : LongOption, option.name = word) ∧ readName word value n = none) := by
  unfold readName LongOption.ofName?
  cases hfind : LongOption.all.find? fun o => o.name == word with
  | none =>
    refine .inr ⟨?_, rfl⟩
    rintro ⟨option, hname⟩
    have hall : option ∈ LongOption.all := by cases option <;> decide
    exact absurd (beq_iff_eq.mpr hname) (List.find?_eq_none.mp hfind option hall)
  | some option =>
    have hname : (option.name == word) = true :=
      List.find?_some (p := fun o : LongOption => o.name == word) hfind
    refine .inl ⟨⟨option, beq_iff_eq.mp hname⟩, _, rfl, ?_⟩
    -- a text is printed, or a complaint about the value
    cases value with
    | some value => exact not_false
    | none => cases option <;> exact not_false

theorem toList_longName (option : LongOption) :
    ("--" ++ option.name).toList = '-' :: '-' :: option.name.toList := String.toList_append

theorem toList_longName_value (option : LongOption) (value : String) :
    ("--" ++ option.name ++ "=" ++ value).toList =
      '-' :: '-' :: (option.name.toList ++ '=' :: value.toList) := by
  rw [String.toList_append, String.toList_append, toList_longName, List.append_assoc]
  rfl

/-- Two dashes and a word ask for a text about the program exactly if the word before the first `=`
is a long name. -/
theorem asksForText_iff_of_dashes {word : List Char} (ht : t.toList = '-' :: '-' :: word) :
    AsksForText t ↔
      ∃ option : LongOption, option.name = String.ofList (word.takeWhile (· != '=')) := by
  have hiff : ∀ option : LongOption, option.name = String.ofList (word.takeWhile (· != '=')) ↔
      word = option.name.toList ∨ ∃ value, word = option.name.toList ++ '=' :: value := by
    intro option
    have hname : '=' ∉ option.name.toList := by cases option <;> decide
    rw [← takeWhile_eq_iff hname, ← String.toList_inj, String.toList_ofList, eq_comm]
  simp only [hiff]
  constructor
  · rintro (⟨hletters, hknown, _⟩ | ⟨option, rfl⟩ | ⟨option, value, rfl⟩)
    · -- the second dash is no known letter
      rw [ht] at hletters
      obtain rfl := (List.cons.inj hletters).2
      exact absurd (areKnown_cons.mp hknown).1 (by decide)
    · rw [toList_longName, List.cons.injEq, List.cons.injEq] at ht
      exact ⟨option, .inl ht.2.2.symm⟩
    · rw [toList_longName_value, List.cons.injEq, List.cons.injEq] at ht
      exact ⟨option, .inr ⟨value.toList, ht.2.2.symm⟩⟩
  · rintro ⟨option, rfl | ⟨value, rfl⟩⟩
    · exact .name option (String.toList_injective (ht.trans (toList_longName option).symm))
    · refine .value option (String.ofList value) (String.toList_injective ?_)
      rw [ht, toList_longName_value, String.toList_ofList]

/-- One dash and letters ask for a text exactly if all are known and some are not for log lines. -/
theorem asksForText_iff_of_dash (ht : t.toList = '-' :: cs) (hdash : cs.head? ≠ some '-') :
    AsksForText t ↔ AreKnown cs ∧ ∃ c ∈ cs, c ≠ 'v' := by
  constructor
  · rintro (⟨hletters, hknown, hother⟩ | ⟨option, rfl⟩ | ⟨option, value, rfl⟩)
    · obtain rfl := (List.cons.inj (ht.symm.trans hletters)).2
      exact ⟨hknown, hother⟩
    · rw [toList_longName, List.cons.injEq] at ht
      exact absurd (by rw [← ht.2, List.head?_cons]) hdash
    · rw [toList_longName_value, List.cons.injEq] at ht
      exact absurd (by rw [← ht.2, List.head?_cons]) hdash
  · rintro ⟨hknown, hother⟩
    exact .letters ht hknown hother

/-- What has no dash and something behind it asks for no text. -/
theorem AsksForText.exists_cons (h : AsksForText t) : ∃ c cs, t.toList = '-' :: c :: cs := by
  rcases h with ⟨ht, _, c, hc, _⟩ | ⟨option, rfl⟩ | ⟨option, value, rfl⟩
  · obtain ⟨first, rest, rfl⟩ := List.exists_cons_of_ne_nil (List.ne_nil_of_mem hc)
    exact ⟨first, rest, ht⟩
  · exact ⟨_, _, toList_longName option⟩
  · exact ⟨_, _, toList_longName_value option value⟩

/-- **One token in front** is a cluster and counted, asks for a text about the program, or is no
option. -/
theorem readOption_cases (t : String) (n : Nat) :
    (IsCluster t ∧ readOption t n = some (.inl (n + t.toList.count 'v'))) ∨
      (¬ IsCluster t ∧ AsksForText t ∧ ∃ r, readOption t n = some (.inr r) ∧ ¬ r.IsRun) ∨
      (¬ IsCluster t ∧ ¬ AsksForText t ∧ readOption t n = none) := by
  unfold readOption
  split
  -- two dashes: no cluster, since the second dash is no letter
  · next word ht =>
    have hcluster : ¬ IsCluster t := by
      rw [isCluster_iff_of_dash ht]
      intro hall
      exact absurd (hall '-' List.mem_cons_self) (by decide)
    rw [asksForText_iff_of_dashes ht]
    dsimp only
    rcases readName_cases (String.ofList (word.takeWhile (· != '=')))
      ((word.drop (word.takeWhile (· != '=')).length).tail?.map String.ofList) n with
      ⟨hname, r, hread, hrun⟩ | ⟨hname, hread⟩
    · exact .inr (.inl ⟨hcluster, hname, r, by rw [hread]; rfl, hrun⟩)
    · exact .inr (.inr ⟨hcluster, hname, by rw [hread]; rfl⟩)
  -- one dash: whether all letters ask for log lines or some for a text tells the two apart
  · next c cs hdash ht =>
    have hhead : (c :: cs).head? ≠ some '-' := by
      rw [List.head?_cons, ne_eq, Option.some.injEq]
      exact hdash
    rw [isCluster_iff_of_dash ht, asksForText_iff_of_dash ht hhead]
    rcases readLetters_cases (c :: cs) n with
      ⟨hall, hread⟩ | ⟨hknown, hother, hread⟩ | ⟨hknown, hread⟩
    · refine .inl ⟨hall, ?_⟩
      have hcount : t.toList.count 'v' = (c :: cs).length := by
        rw [ht, List.count_cons_of_ne (by decide), List.count_eq_length]
        exact fun c' hc' => (hall c' hc').symm
      rw [hread, hcount]
    · obtain ⟨c', hc', hv⟩ := hother
      exact .inr (.inl ⟨fun hall => hv (hall c' hc'), ⟨hknown, c', hc', hv⟩, hread⟩)
    · refine .inr (.inr ⟨fun hall => hknown fun c' hc' => ?_, fun h => hknown h.1, hread⟩)
      rw [hall c' hc']
      decide
  · next _ hnone =>
    -- no dash, or nothing behind it
    refine .inr (.inr ⟨?_, ?_, rfl⟩)
    · rintro ⟨m, ht⟩
      exact hnone _ _ ht
    · intro h
      obtain ⟨c, cs, ht⟩ := h.exists_cons
      exact hnone c cs ht

/-! ### Reading -/

/-- Tokens without a mark in front of them. -/
def withoutMark : List String → List String
  | [] => []
  | t :: ts => if t = endMark then ts else t :: ts

theorem dropWhile_of_isCluster (ht : IsCluster t) :
    (t :: ts).dropWhile (IsCluster ·) = ts.dropWhile (IsCluster ·) :=
  List.dropWhile_cons_of_pos (decide_eq_true ht)

theorem dropWhile_of_not_isCluster (ht : ¬ IsCluster t) :
    (t :: ts).dropWhile (IsCluster ·) = t :: ts :=
  List.dropWhile_cons_of_neg (by simpa using ht)

theorem not_isCluster_endMark : ¬ IsCluster endMark := by
  rintro ⟨n, ht⟩
  have hsecond : '-' = 'v' := (List.cons.inj (List.cons.inj ht).2).1
  exact absurd hsecond (by decide)

theorem not_asksForText_endMark : ¬ AsksForText endMark := by
  have hmark : endMark.toList = '-' :: '-' :: [] := rfl
  rw [asksForText_iff_of_dashes hmark]
  rintro ⟨option, hname⟩
  cases option <;> exact absurd hname (by decide)

theorem runWith_texts (v : Nat) (tokens : List String) :
    runWith v (tokens.map .text) = .run v tokens := by
  have htexts : (tokens.map Argument.text).mapM Argument.text? = some tokens := by
    induction tokens with
    | nil => rfl
    | cons t ts ih => simp [ih, Argument.text?]
  rw [runWith, htexts]

/-- A cluster is counted. -/
theorem readFrom_cluster (ht : IsCluster t) (n : Nat) (rest : List Argument) :
    readFrom n (.text t :: rest) = readFrom (n + t.toList.count 'v') rest := by
  have hmark : t ≠ endMark := by
    rintro rfl
    exact not_isCluster_endMark ht
  rw [readFrom, if_neg hmark]
  -- of the three cases the other two are about tokens that are no clusters
  rcases readOption_cases t n with ⟨_, hread⟩ | ⟨hnot, _⟩ | ⟨hnot, _⟩
  · rw [hread]
  · exact absurd ht hnot
  · exact absurd ht hnot

/-- Behind the clusters, a run has what stands there as its tokens, except for a mark. -/
theorem readFrom_eq_run_iff_of_not_isCluster (ht : ¬ IsCluster t) :
    readFrom n ((t :: ts).map .text) = .run v read ↔
      ¬ AsksForText t ∧ v = n ∧ read = withoutMark (t :: ts) := by
  rw [List.map_cons, readFrom, withoutMark]
  by_cases hmark : t = endMark
  · rw [if_pos hmark, if_pos hmark, runWith_texts, Request.run.injEq, hmark,
      and_iff_right not_asksForText_endMark]
    exact and_congr eq_comm eq_comm
  · rw [if_neg hmark, if_neg hmark]
    rcases readOption_cases t n with ⟨hcluster, _⟩ | ⟨_, hasks, r, hread, hrun⟩ | ⟨_, hasks, hread⟩
    · exact absurd hcluster ht
    · rw [hread]
      constructor
      · intro h
        obtain rfl : r = .run v read := h
        exact absurd trivial hrun
      · intro h
        exact absurd hasks h.1
    · have htokens : runWith n (.text t :: ts.map .text) = .run n (t :: ts) :=
        runWith_texts n (t :: ts)
      rw [hread, and_iff_right hasks]
      dsimp only
      rw [htokens, Request.run.injEq]
      exact and_congr eq_comm eq_comm

/-- **Reading** comes to a run exactly if the first token behind the clusters asks for no text; it
counts the clusters, takes a mark behind them away and leaves all else as it is. -/
theorem readFrom_eq_run_iff :
    readFrom n (tokens.map .text) = .run v read ↔
      (∀ t ∈ (tokens.dropWhile (IsCluster ·)).head?, ¬ AsksForText t) ∧
        v = n + letterCount (tokens.takeWhile (IsCluster ·)) ∧
        read = withoutMark (tokens.dropWhile (IsCluster ·)) := by
  induction tokens generalizing n with
  | nil => simp [readFrom, withoutMark, eq_comm]
  | cons t ts ih =>
    by_cases ht : IsCluster t
    · -- the letters of a cluster go into the number that the rest is read with
      have htake : (t :: ts).takeWhile (IsCluster ·) = t :: ts.takeWhile (IsCluster ·) :=
        List.takeWhile_cons_of_pos (decide_eq_true ht)
      rw [List.map_cons, readFrom_cluster ht, ih, dropWhile_of_isCluster ht, htake,
        letterCount_cons, Nat.add_assoc]
    · have htake : (t :: ts).takeWhile (IsCluster ·) = [] :=
        List.takeWhile_cons_of_neg (by simpa using ht)
      rw [readFrom_eq_run_iff_of_not_isCluster ht, dropWhile_of_not_isCluster ht, htake]
      simp

/-- **What is relied on of a reading.** It passes over clusters, takes a mark right behind them
away, and passes everything from the next token on unchanged. -/
structure PassesOn (reading : List Argument → Request) : Prop where
  /-- A cluster in front changes nothing about the tokens. -/
  cluster {t : String} {ts read : List String} {v : Nat} (ht : IsCluster t)
    (h : reading ((t :: ts).map .text) = .run v read) : ∃ n, reading (ts.map .text) = .run n read
  /-- A mark in front is no token. -/
  mark {ts read : List String} {v : Nat}
    (h : reading ((endMark :: ts).map .text) = .run v read) : read = ts
  /-- Any other token in front is the first one. -/
  other {t : String} {ts read : List String} {v : Nat} (ht : ¬ IsCluster t) (hmark : t ≠ endMark)
    (h : reading ((t :: ts).map .text) = .run v read) : read = t :: ts
  /-- There are no tokens but those. -/
  nil {read : List String} {v : Nat} (h : reading [] = .run v read) : read = []

theorem passesOn_readArguments : PassesOn readArguments where
  cluster ht h := by
    obtain ⟨hfirst, _, hread⟩ := readFrom_eq_run_iff.mp h
    rw [dropWhile_of_isCluster ht] at hfirst hread
    exact ⟨_, readFrom_eq_run_iff.mpr ⟨hfirst, rfl, hread⟩⟩
  mark h := by
    obtain ⟨_, _, hread⟩ := readFrom_eq_run_iff.mp h
    rw [hread, dropWhile_of_not_isCluster not_isCluster_endMark, withoutMark, if_pos rfl]
  other ht hmark h := by
    obtain ⟨_, _, hread⟩ := readFrom_eq_run_iff.mp h
    rw [hread, dropWhile_of_not_isCluster ht, withoutMark, if_neg hmark]
  nil h := by
    cases h
    rfl

/-- The tokens of a run are those behind the clusters, without a mark in front of them. -/
theorem PassesOn.eq_withoutMark {reading : List Argument → Request} (hreading : PassesOn reading)
    (h : reading (tokens.map .text) = .run v read) :
    read = withoutMark (tokens.dropWhile (IsCluster ·)) := by
  induction tokens generalizing v with
  | nil => exact hreading.nil h
  | cons t ts ih =>
    by_cases ht : IsCluster t
    · obtain ⟨n, hrest⟩ := hreading.cluster ht h
      rw [dropWhile_of_isCluster ht]
      exact ih hrest
    · rw [dropWhile_of_not_isCluster ht, withoutMark]
      by_cases hmark : t = endMark
      · subst hmark
        rw [if_pos rfl]
        exact hreading.mark h
      · rw [if_neg hmark]
        exact hreading.other ht hmark h

/-! ### The mark -/

/-- The first argument that does not ask for log lines only is the first token behind the
clusters. -/
theorem find?_texts (tokens : List String) :
    ((tokens.map Argument.text).find? fun a => !a.isVerbosity) =
      (tokens.dropWhile (IsCluster ·)).head?.map .text := by
  induction tokens with
  | nil => rfl
  | cons t ts ih =>
    by_cases ht : IsCluster t
    · have hverbosity : (Argument.text t).isVerbosity = true := isVerbosity_text.mpr ht
      rw [List.map_cons, List.find?_cons_of_neg (by simp [hverbosity]), ih,
        dropWhile_of_isCluster ht]
    · have hother : (Argument.text t).isVerbosity = false := by
        rw [← Bool.not_eq_true, isVerbosity_text]
        exact ht
      rw [List.map_cons, List.find?_cons_of_pos (by simp [hother]), dropWhile_of_not_isCluster ht]
      rfl

/-- **The mark** is put back exactly where the reading took it away. -/
theorem restoreMark_texts (tokens : List String) :
    restoreMark (tokens.map .text) (withoutMark (tokens.dropWhile (IsCluster ·))) =
      tokens.dropWhile (IsCluster ·) := by
  rw [restoreMark, find?_texts]
  cases tokens.dropWhile (IsCluster ·) with
  | nil => rfl
  | cons t ts =>
    have hfirst : (t :: ts).head?.map Argument.text = some (.text endMark) ↔ t = endMark := by simp
    rw [withoutMark]
    by_cases hmark : t = endMark
    · rw [if_pos (hfirst.mpr hmark), if_pos hmark, hmark]
    · rw [if_neg fun h => hmark (hfirst.mp h), if_neg hmark]

/-- **Every token reaches the classifier.** Whatever reading passes the tokens on, with the mark put
back a run has all that stands behind the clusters: nothing is lost, nothing is added and nothing
changes its place, wherever and however often the mark stands among them. The program's own reading
is of this kind. It comes to a run exactly if the first token behind the clusters asks for no text
about the program, and these tokens are then classified. -/
theorem tokens_reach_classifier (tokens : List String) :
    (∀ reading, PassesOn reading → ∀ v read, reading (tokens.map .text) = .run v read →
        restoreMark (tokens.map .text) read = tokens.dropWhile (IsCluster ·)) ∧
      PassesOn readArguments ∧
      ((∃ v read, readArguments (tokens.map .text) = .run v read) ↔
        ∀ t ∈ (tokens.dropWhile (IsCluster ·)).head?, ¬ AsksForText t) ∧
      ∀ v read, readArguments (tokens.map .text) = .run v read →
        parse (tokens.map .text) = .run v (tokens.dropWhile (IsCluster ·)) ∧
          ∀ lookup files, execute lookup files (tokens.map .text) =
            executeRun lookup files v (tokens.dropWhile (IsCluster ·)) := by
  have hrestored : ∀ reading, PassesOn reading → ∀ v read,
      reading (tokens.map .text) = .run v read →
        restoreMark (tokens.map .text) read = tokens.dropWhile (IsCluster ·) := by
    intro reading hreading v read h
    rw [hreading.eq_withoutMark h]
    exact restoreMark_texts tokens
  refine ⟨hrestored, passesOn_readArguments, ?_, ?_⟩
  · constructor
    · rintro ⟨v, read, h⟩
      exact (readFrom_eq_run_iff.mp h).1
    · intro h
      exact ⟨_, _, readFrom_eq_run_iff.mpr ⟨h, rfl, rfl⟩⟩
  · intro v read h
    have hparse : parse (tokens.map .text) = .run v (tokens.dropWhile (IsCluster ·)) := by
      rw [parse, h]
      dsimp only
      rw [hrestored _ passesOn_readArguments v read h]
    refine ⟨hparse, fun lookup files => ?_⟩
    rw [execute, hparse]

/-- Of three marks the first is taken away by the reading, and all three reach the classifier. -/
theorem tokens_reach_classifier_threeMarks :
    readArguments (["-v", "-vv", "--", "-v", "--", "a.yaml", "--"].map .text) =
        .run 3 ["-v", "--", "a.yaml", "--"] ∧
      PassesOn readArguments ∧
      restoreMark (["-v", "-vv", "--", "-v", "--", "a.yaml", "--"].map .text)
          ["-v", "--", "a.yaml", "--"] = ["--", "-v", "--", "a.yaml", "--"] ∧
      parse (["-v", "-vv", "--", "-v", "--", "a.yaml", "--"].map .text) =
        .run 3 ["--", "-v", "--", "a.yaml", "--"] := by
  have hread : readArguments (["-v", "-vv", "--", "-v", "--", "a.yaml", "--"].map .text) =
      .run 3 ["-v", "--", "a.yaml", "--"] := by decide
  obtain ⟨hrestored, husual, _, hall⟩ :=
    tokens_reach_classifier ["-v", "-vv", "--", "-v", "--", "a.yaml", "--"]
  exact ⟨hread, husual, hrestored _ husual _ _ hread, (hall _ _ hread).1⟩

end DocCheck.CommandLine
