import DocCheck.Proofs.Json.Quoted
import DocCheck.Proofs.Location

/-!
# Locations read back

A location is the texts of its steps put behind one another, and they come apart again without the
document: an identifier ends where the next step starts, a key in quotes is read as JSON reads a
string, and digits in brackets are an index. So a location tells the path that it was made of, a key
of digits from an index included.

* `readStep`, `decode` — the path of a location;
* `readStep_piece` — one step, whatever steps stand behind it;
* `walk_eq` — along a path into a document the document does not show in the location;
* `ofPointer_unambiguous` — what a location tells.
-/

namespace DocCheck.Json

/-- Whether the index of a step fits into a word, as that of an item of an array in memory does. -/
def Step.IsWord : Step → Prop
  | key _ => True
  | index i => i < Nat.pow 2 64

instance (s : Step) : Decidable s.IsWord :=
  match s with
  | .key _ => inferInstanceAs (Decidable True)
  | .index i => inferInstanceAs (Decidable (i < Nat.pow 2 64))

end DocCheck.Json

namespace DocCheck.Location

open Json (Step)
open JsonScalar (readString readString_quoteChars)

/-! ### Reading a location -/

/-- Whether a character may stand in an identifier. -/
def isIdentifierPart (c : Char) : Bool := isIdentifierStart c || ('0' ≤ c && c ≤ '9')

/-- The first step of a location, and the rest of it. -/
def readStep : List Char → Option (Step × List Char)
  | '.' :: cs =>
    some (.key (String.ofList (cs.takeWhile isIdentifierPart)), cs.dropWhile isIdentifierPart)
  | '[' :: '"' :: cs =>
    match readString (cs.length + 1) [] (.ofList cs) with
    | .ok (name, c) => if c.rest.head? = some ']' then some (.key name, c.rest.tail) else none
    | .error _ => none
  | '[' :: cs =>
    (Json.Pointer.toIndex? (cs.takeWhile Char.isDigit)).bind fun i =>
      if (cs.dropWhile Char.isDigit).head? = some ']' then
        some (.index i, (cs.dropWhile Char.isDigit).tail)
      else none
  | _ => none

/-- The steps of a location, of which there are at most as many as the fuel says. -/
def readSteps : Nat → List Char → Option (List Step)
  | _, [] => some []
  | 0, _ :: _ => none
  | fuel + 1, c :: cs =>
    (readStep (c :: cs)).bind fun p => (readSteps fuel p.2).map fun steps => p.1 :: steps

/-- The path that a location was made of. No step is written without a character. -/
def decode (location : String) : Option (List Step) :=
  readSteps location.toList.length location.toList

/-! ### The pieces of a location -/

/-- The text of one step. -/
def piece : Step → List Char
  | .key name => member name.toList
  | .index i => item (toString i).toList

/-- Whether no identifier goes on at the start of a text. -/
def Stops (cs : List Char) : Prop := ∀ c ∈ cs.head?, isIdentifierPart c = false

/-- The text of a step starts with a dot or a bracket. -/
theorem piece_eq_cons (s : Step) : ∃ c rest, piece s = c :: rest ∧ (c = '.' ∨ c = '[') := by
  cases s with
  | index i => exact ⟨'[', _, rfl, .inr rfl⟩
  | key name =>
    by_cases h : isIdentifier name.toList
    · exact ⟨'.', _, if_pos h, .inl rfl⟩
    · exact ⟨'[', _, if_neg h, .inr rfl⟩

/-- Where a step starts no identifier goes on. -/
theorem stops_flatMap_piece (path : List Step) : Stops (path.flatMap piece) := by
  cases path with
  | nil => exact nofun
  | cons s path =>
    obtain ⟨c, rest, hpiece, hc⟩ := piece_eq_cons s
    intro d hd
    rw [List.flatMap_cons, hpiece] at hd
    obtain rfl : c = d := by simpa using hd
    rcases hc with rfl | rfl <;> decide

theorem isIdentifierPart_of_isIdentifier {key : List Char} (h : isIdentifier key) :
    ∀ c ∈ key, isIdentifierPart c = true := by
  cases key with
  | nil => exact nofun
  | cons d ds =>
    obtain ⟨hd, hds⟩ := Bool.and_eq_true_iff.mp h
    intro c hc
    rcases List.mem_cons.mp hc with rfl | hc
    · exact Bool.or_eq_true_iff.mpr (.inl hd)
    · exact List.all_eq_true.mp hds c hc

section
variable {rest : List Char}

/-- An identifier is read up to where it stops. -/
theorem readStep_identifier {name : String} (h : isIdentifier name.toList) (hrest : Stops rest) :
    readStep ('.' :: (name.toList ++ rest)) = some (.key name, rest) := by
  have hname := isIdentifierPart_of_isIdentifier h
  have hstop : rest.takeWhile isIdentifierPart = [] ∧ rest.dropWhile isIdentifierPart = rest := by
    cases rest with
    | nil => exact ⟨rfl, rfl⟩
    | cons c cs =>
      have hc : isIdentifierPart c = false := hrest c rfl
      exact ⟨List.takeWhile_cons_of_neg (by simp [hc]), List.dropWhile_cons_of_neg (by simp [hc])⟩
  rw [readStep, List.takeWhile_append_of_pos hname, List.dropWhile_append_of_pos hname, hstop.1,
    hstop.2, List.append_nil, String.ofList_toList]

/-- A key in quotes is read up to its last quote. -/
theorem readStep_quoted (name : String) (rest : List Char) :
    readStep ('[' :: (Json.quoteChars name.toList ++ ']' :: rest)) = some (.key name, rest) := by
  -- What is quoted begins with a quote, by which a key in brackets is told from an index.
  obtain ⟨text, htext⟩ : ∃ text, '"' :: text = Json.quoteChars name.toList ++ ']' :: rest :=
    ⟨_, rfl⟩
  obtain ⟨c, hread, hc⟩ := readString_quoteChars htext
  rw [← htext, readStep, hread]
  simp only [hc, List.head?_cons, List.tail_cons, String.ofList_toList]
  rfl

/-- The digits of an index do not start with a quote. -/
theorem digits_ne_quote (i : Nat) (rest cs : List Char) :
    (toString i).toList ++ ']' :: rest ≠ '"' :: cs := by
  intro h
  cases hdigits : (toString i).toList with
  | nil =>
    rw [hdigits] at h
    exact absurd (List.cons.inj h).1 (by decide)
  | cons d ds =>
    have hd : d.isDigit = true :=
      Text.isDigit_of_mem_toString (hdigits ▸ List.mem_cons_self)
    rw [hdigits] at h
    rw [(List.cons.inj h).1] at hd
    exact absurd hd (by decide)

/-- Digits in brackets are read as the index. -/
theorem readStep_index {i : Nat} (h : i < Nat.pow 2 64) (rest : List Char) :
    readStep ('[' :: ((toString i).toList ++ ']' :: rest)) = some (.index i, rest) := by
  have hdigits : ∀ c ∈ (toString i).toList, c.isDigit = true :=
    fun c hc => Text.isDigit_of_mem_toString hc
  have hindex : Json.Pointer.toIndex? (toString i).toList = some i := by
    rw [Json.Pointer.toIndex?_toString, Option.filter_some, if_pos (decide_eq_true h)]
  have htake : ((toString i).toList ++ ']' :: rest).takeWhile Char.isDigit =
      (toString i).toList := by
    rw [List.takeWhile_append_of_pos hdigits, List.takeWhile_cons_of_neg (by decide),
      List.append_nil]
  have hdrop : ((toString i).toList ++ ']' :: rest).dropWhile Char.isDigit = ']' :: rest := by
    rw [List.dropWhile_append_of_pos hdigits, List.dropWhile_cons_of_neg (by decide)]
  rw [readStep, htake, hdrop, hindex]
  · rfl
  · exact fun cs hcs => digits_ne_quote i rest cs hcs

/-- **One step.** A step is read back, and what stands behind it is left. -/
theorem readStep_piece {s : Step} (hs : s.IsWord) (hrest : Stops rest) :
    readStep (piece s ++ rest) = some (s, rest) := by
  cases s with
  | index i =>
    have htext : piece (.index i) ++ rest = '[' :: ((toString i).toList ++ ']' :: rest) := by
      simp [piece, item]
    rw [htext]
    exact readStep_index hs rest
  | key name =>
    by_cases h : isIdentifier name.toList
    · have htext : piece (.key name) ++ rest = '.' :: (name.toList ++ rest) := by
        simp [piece, member, h]
      rw [htext]
      exact readStep_identifier h hrest
    · have htext : piece (.key name) ++ rest =
          '[' :: (Json.quoteChars name.toList ++ ']' :: rest) := by
        simp [piece, member, h]
      rw [htext]
      exact readStep_quoted name rest

end

/-! ### Paths -/

/-- All steps are read back, one by one. -/
theorem readSteps_flatMap_piece {path : List Step} {fuel : Nat} (hwords : ∀ s ∈ path, s.IsWord)
    (hfuel : (path.flatMap piece).length ≤ fuel) :
    readSteps fuel (path.flatMap piece) = some path := by
  induction path generalizing fuel with
  | nil => rw [List.flatMap_nil, readSteps]
  | cons s path ih =>
    obtain ⟨hs, hpath⟩ := List.forall_mem_cons.mp hwords
    have hread := readStep_piece hs (stops_flatMap_piece path)
    obtain ⟨c, cs, hpiece, _⟩ := piece_eq_cons s
    -- A step is written with at least one character, so that the fuel lasts.
    rw [List.flatMap_cons, hpiece, List.cons_append] at hfuel ⊢
    rw [hpiece, List.cons_append] at hread
    obtain ⟨fuel, rfl⟩ : ∃ n, fuel = n + 1 :=
      Nat.exists_eq_add_one.mpr (Nat.lt_of_lt_of_le (Nat.succ_pos _) hfuel)
    have hrest : (path.flatMap piece).length ≤ fuel := by
      rw [List.length_cons, List.length_append] at hfuel
      omega
    rw [readSteps, hread, Option.bind_some, ih hpath hrest, Option.map_some]

/-- **Decoding.** The steps of a location come back. -/
theorem decode_ofList {path : List Step} (hwords : ∀ s ∈ path, s.IsWord) :
    decode (String.ofList (path.flatMap piece)) = some path := by
  rw [decode, String.toList_ofList]
  exact readSteps_flatMap_piece hwords (Nat.le_refl _)

/-- Along a path that leads into a value each step is written as it is, whatever else the value
holds. -/
theorem walk_eq {j : Json} {path : List Step} (h : (j.at? path).isSome)
    (hwords : ∀ s ∈ path, s.IsWord) :
    walk (some j) (path.map Step.text) = path.flatMap piece := by
  induction path generalizing j with
  | nil => rw [List.map_nil, walk, List.flatMap_nil]
  | cons s rest ih =>
    obtain ⟨hs, hrest⟩ := List.forall_mem_cons.mp hwords
    obtain ⟨c, hc⟩ := Option.isSome_iff_exists.mp h
    rw [Json.at?_cons] at hc
    obtain ⟨d, hd, hbelow⟩ := Option.bind_eq_some_iff.mp hc
    have hwalk : walk (some d) (rest.map Step.text) = rest.flatMap piece :=
      ih (Option.isSome_iff_exists.mpr ⟨c, hbelow⟩) hrest
    rw [List.map_cons, List.flatMap_cons, ← hwalk]
    -- Whether a text is a key or an index is seen from the value that it leads into.
    cases j with
    | obj ms =>
      cases s with
      | index i => cases hd
      | key name => exact walk_key hd _
    | arr xs =>
      cases s with
      | key name => cases hd
      | index i =>
        have hitem : xs[i]? = some d := hd
        have hsmall : i < Nat.pow 2 64 := hs
        rw [walk_index, hitem, if_pos hsmall]
        rfl
    | _ => cases hd

/-- The location of a path into a document. -/
theorem ofPointer_render {document : Json} {path : List Step} (h : (document.at? path).isSome)
    (hwords : ∀ s ∈ path, s.IsWord) :
    ofPointer (Json.Pointer.render path) document = String.ofList (path.flatMap piece) := by
  rw [ofPointer, Json.Pointer.segments_render, walk_eq h hwords]

/-- A key is never written like an index. -/
theorem piece_key_ne (name : String) (i : Nat) : piece (.key name) ≠ item (toString i).toList := by
  intro h
  rw [piece, member, item] at h
  split at h
  · exact absurd (List.cons.inj h).1 (by decide)
  · exact digits_ne_quote i [] _ (List.cons.inj h).2.symm

/-- **Locations.** A location tells the path into the document that it was made of, with keys and
indices apart, whatever the document is. So no other place in the document has the same location, a
key that consists of digits is not written like an index, and only the root has the empty
location. -/
theorem ofPointer_unambiguous {document : Json} {path : List Step}
    (h : (document.at? path).isSome) (hwords : ∀ s ∈ path, s.IsWord) :
    decode (ofPointer (Json.Pointer.render path) document) = some path ∧
    (∀ other, (document.at? other).isSome → (∀ s ∈ other, s.IsWord) →
      ofPointer (Json.Pointer.render other) document =
        ofPointer (Json.Pointer.render path) document → other = path) ∧
    (∀ before name, path = before ++ [.key name] → ∀ i : Nat,
      ofPointer (Json.Pointer.render path) document ≠
        ofPointer (Json.Pointer.render before) document ++ ("[" ++ toString i ++ "]")) ∧
    (ofPointer (Json.Pointer.render path) document = "" ↔ path = []) := by
  have hdecode : ∀ other, (document.at? other).isSome → (∀ s ∈ other, s.IsWord) →
      decode (ofPointer (Json.Pointer.render other) document) = some other := by
    intro other hother hotherWords
    rw [ofPointer_render hother hotherWords]
    exact decode_ofList hotherWords
  refine ⟨hdecode path h hwords, ?_, ?_, ?_⟩
  · intro other hother hotherWords heq
    have hsame := hdecode other hother hotherWords
    rw [heq, hdecode path h hwords] at hsame
    exact (Option.some.inj hsame).symm
  · rintro before name rfl i heq
    have hbefore : (document.at? before).isSome := by
      rw [Json.at?_append] at h
      exact Option.isSome_of_isSome_bind h
    have hbeforeWords : ∀ s ∈ before, s.IsWord :=
      fun s hs => hwords s (List.mem_append_left _ hs)
    rw [ofPointer_render h hwords, ofPointer_render hbefore hbeforeWords] at heq
    -- behind the same beginning, the key would have to be the index
    have hlast := congrArg String.toList heq
    rw [String.toList_append, String.toList_ofList, String.toList_ofList, List.flatMap_append,
      List.append_cancel_left_eq] at hlast
    refine piece_key_ne name i ?_
    simpa [item] using hlast
  · constructor
    · intro hempty
      have hroot : decode "" = some [] := rfl
      rw [← hempty, hdecode path h hwords] at hroot
      exact Option.some.inj hroot
    · rintro rfl
      rfl

/-- A document with the key `0`, a list and a key that needs quotes. -/
def nestedDocument : Json := .obj [("0", .arr [.obj [("a/~\"", .null)]])]

/-- The path to its last value. -/
def nestedPath : List Step := [.key "0", .index 0, .key "a/~\""]

/-- The key `0` and the index `0` have locations of their own. -/
theorem ofPointer_unambiguous_nestedDocument :
    (nestedDocument.at? nestedPath).isSome ∧ (∀ s ∈ nestedPath, s.IsWord) ∧
      ofPointer (Json.Pointer.render nestedPath) nestedDocument =
        "[\"0\"][0][\"a/~\\\"\"]" ∧
      decode (ofPointer (Json.Pointer.render nestedPath) nestedDocument) = some nestedPath := by
  have hplace : (nestedDocument.at? nestedPath).isSome := by decide
  have hwords : ∀ s ∈ nestedPath, s.IsWord := by decide
  exact ⟨hplace, hwords, by decide +kernel, (ofPointer_unambiguous hplace hwords).1⟩

end DocCheck.Location
