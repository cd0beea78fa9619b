import DocCheck.Json.Pointer
import DocCheck.Proofs.Path
import DocCheck.Proofs.Text.Lines

/-!
# Pointers read back

The steps of a pointer come back as they were written: a key whatever characters it holds, and an
index as its digits, from which the index is read again.

* `Step.text` — the text that a step stands for;
* `unescape_escape` — escaping a key loses nothing;
* `segments_render` — the steps of a pointer;
* `toIndex?_toString` — no digits are read as another index.
-/

namespace DocCheck.Json

/-- The text that a step stands for: a key, or the digits of an index. -/
def Step.text : Step → List Char
  | key name => name.toList
  | index i => (toString i).toList

namespace Pointer

/-! ### Escaping -/

variable {d replacement : Char} {cs rest : List Char}

theorem replaceTilde_of_ne {c : Char} (h : c ≠ '~') :
    replaceTilde d replacement (c :: rest) = c :: replaceTilde d replacement rest := by
  rw [replaceTilde]
  exact fun _ _ hc _ => h hc

theorem replaceTilde_pair (rest : List Char) :
    replaceTilde d replacement ('~' :: d :: rest) =
      replacement :: replaceTilde d replacement rest := by
  rw [replaceTilde, if_pos rfl]

theorem replaceTilde_of_pair_ne {c : Char} (h : c ≠ d) :
    replaceTilde d replacement ('~' :: c :: rest) =
      '~' :: replaceTilde d replacement (c :: rest) := by
  rw [replaceTilde, if_neg h]

theorem replaceTilde_of_not_mem (h : '~' ∉ cs) : replaceTilde d replacement cs = cs := by
  induction cs with
  | nil => rfl
  | cons c cs ih =>
    rw [List.mem_cons, not_or] at h
    rw [replaceTilde_of_ne (Ne.symm h.1), ih h.2]

/-- A character as it stands once the slashes are back. -/
def escapeTilde (c : Char) : List Char := if c = '~' then ['~', '0'] else [c]

/-- First the slashes come back. -/
theorem replaceTilde_escape (cs : List Char) :
    replaceTilde '1' '/' (escape cs) = cs.flatMap escapeTilde := by
  induction cs with
  | nil => rfl
  | cons c cs ih =>
    change replaceTilde '1' '/' (escapeChar c ++ escape cs) = _
    rw [List.flatMap_cons, ← ih]
    by_cases htilde : c = '~'
    · -- a tilde stands as `~0`, which the first round passes by
      subst htilde
      change replaceTilde '1' '/' ('~' :: '0' :: escape cs) =
        '~' :: '0' :: replaceTilde '1' '/' (escape cs)
      rw [replaceTilde_of_pair_ne (by decide), replaceTilde_of_ne (by decide)]
    by_cases hslash : c = '/'
    · subst hslash
      exact replaceTilde_pair _
    · have hwritten : escapeChar c = [c] := by rw [escapeChar, if_neg htilde, if_neg hslash]
      have hback : escapeTilde c = [c] := if_neg htilde
      rw [hwritten, hback]
      exact replaceTilde_of_ne htilde

/-- Then the tildes do. -/
theorem replaceTilde_escapeTilde (cs : List Char) :
    replaceTilde '0' '~' (cs.flatMap escapeTilde) = cs := by
  induction cs with
  | nil => rfl
  | cons c cs ih =>
    rw [List.flatMap_cons]
    by_cases htilde : c = '~'
    · subst htilde
      change replaceTilde '0' '~' ('~' :: '0' :: cs.flatMap escapeTilde) = '~' :: cs
      rw [replaceTilde_pair, ih]
    · have hback : escapeTilde c = [c] := if_neg htilde
      rw [hback, List.singleton_append, replaceTilde_of_ne htilde, ih]

/-- **Keys.** Escaping a key loses nothing. -/
theorem unescape_escape (cs : List Char) : unescape (escape cs) = cs := by
  rw [unescape, replaceTilde_escape, replaceTilde_escapeTilde]

/-- An escaped key holds no slash. -/
theorem slash_not_mem_escape (cs : List Char) : '/' ∉ escape cs := by
  intro h
  obtain ⟨c, _, hc⟩ := List.mem_flatMap.mp h
  unfold escapeChar at hc
  split at hc
  · exact absurd hc (by decide)
  split at hc
  · exact absurd hc (by decide)
  · next hslash => exact hslash (List.mem_singleton.mp hc).symm

/-! ### Steps -/

theorem not_mem_toString {c : Char} (hc : c.isDigit = false) (n : Nat) :
    c ∉ (toString n).toList := by
  intro h
  rw [Text.isDigit_of_mem_toString h] at hc
  exact Bool.noConfusion hc

theorem slash_not_mem_segment (s : Step) : '/' ∉ segment s := by
  cases s with
  | key name => exact slash_not_mem_escape name.toList
  | index i => exact not_mem_toString (by decide) i

theorem unescape_segment (s : Step) : unescape (segment s) = s.text := by
  cases s with
  | key name => exact unescape_escape name.toList
  | index i =>
    have hdigits : '~' ∉ (toString i).toList := not_mem_toString (by decide) i
    change unescape (toString i).toList = (toString i).toList
    rw [unescape, replaceTilde_of_not_mem hdigits, replaceTilde_of_not_mem hdigits]

/-- The slashes of a pointer divide it into its steps. -/
theorem segments_append_chars (h : '/' ∉ cs) (steps : List Step) :
    Path.segments '/' (cs ++ chars steps) = cs :: steps.map segment := by
  induction steps generalizing cs with
  | nil => rw [chars, List.flatMap_nil, List.append_nil, Path.segments_of_not_mem h, List.map_nil]
  | cons s steps ih =>
    -- the first slash ends `cs`, and what follows is the first step and the rest of the pointer
    change Path.segments '/' (cs ++ '/' :: (segment s ++ chars steps)) = _
    rw [Path.segments_append h, ih (slash_not_mem_segment s), List.map_cons]

/-- **Pointers.** The steps of a pointer come back. -/
theorem segments_render (steps : List Step) : segments (render steps) = steps.map Step.text := by
  have hraw : Path.segments '/' (chars steps) = [] :: steps.map segment :=
    segments_append_chars List.not_mem_nil steps
  rw [segments, render, String.toList_ofList, rawSegments, hraw, List.drop_one, List.tail_cons,
    List.map_map]
  exact List.map_congr_left fun s _ => unescape_segment s

/-! ### Indices -/

/-- Digits are read as the number that they stand for. -/
theorem digitsValue?_eq {cs : List Char} (h : ∀ c ∈ cs, c.isDigit = true) (n : Nat) :
    digitsValue? cs n = some (Nat.ofDigitChars 10 cs n) := by
  induction cs generalizing n with
  | nil => rfl
  | cons c cs ih =>
    have hdigit : ('0' ≤ c && c ≤ '9') = true := h c List.mem_cons_self
    rw [digitsValue?, if_pos hdigit, ih fun d hd => h d (List.mem_cons_of_mem _ hd)]
    rfl

/-- **Indices.** The digits of an index are read as this index, or as none if it is too large. -/
theorem toIndex?_toString (i : Nat) :
    toIndex? (toString i).toList = (some i).filter (· < Nat.pow 2 64) := by
  -- Digits do not start with a sign, and there is at least one.
  have hplus : ((toString i).toList.head? == some '+') = false := by
    rw [beq_eq_false_iff_ne]
    intro h
    exact not_mem_toString (by decide) i (List.mem_of_mem_head? h)
  have hnonempty : (toString i).toList.isEmpty = false := by
    rw [List.isEmpty_eq_false_iff, Nat.toString_eq_ofList_toDigits, String.toList_ofList]
    exact Nat.toDigits_ne_nil
  unfold toIndex?
  rw [hplus]
  dsimp only
  rw [if_neg Bool.false_ne_true, hnonempty, if_neg Bool.false_ne_true,
    digitsValue?_eq fun c hc => Text.isDigit_of_mem_toString hc, Nat.toString_eq_ofList_toDigits,
    String.toList_ofList, Nat.ofDigitChars_ten_toDigits]

end Pointer

end DocCheck.Json
