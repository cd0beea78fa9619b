import DocCheck.Json.Printer
import DocCheck.Json.Scalar

/-!
# Strings read back

A string in quotes is read back as the string that it is: every way to write a character down, as
it is, as a letter behind a backslash, or by its number, is one that the reader undoes.

* `readString_escapeChar` — one character;
* `readString_quoteChars` — a string, with anything behind it.
-/

namespace DocCheck

namespace Cursor

@[simp] theorem rest_skip (c : Cursor) : c.skip.rest = c.rest.tail := by
  cases h : c.rest with
  | nil => simp [skip, next?, h]
  | cons ch rest =>
    simp only [skip, next?, h]
    split <;> rfl

end Cursor

namespace JsonScalar

open Json (escapeChar hexDigit)

variable {c : Cursor} {ch : Char} {rest : List Char}

/-! ### Characters by their number -/

theorem hexDigit_spec (n : Nat) :
    hexValue? (hexDigit n) = some (n % 16) ∧ (hexDigit n).utf8Size = 1 := by
  have hall : ∀ d < 16,
      hexValue? (Nat.digitChar d) = some d ∧ (Nat.digitChar d).utf8Size = 1 := by decide
  exact hall _ (Nat.mod_lt n (by decide))

/-- A control character is read from its number. -/
theorem readCodePoint_hex (hch : ch.toNat < 0x20)
    (h : c.rest = '0' :: '0' :: hexDigit (ch.toNat / 16) :: hexDigit ch.toNat :: rest) :
    ∃ c', readCodePoint c = .ok (ch, c') ∧ c'.rest = rest := by
  obtain ⟨hhigh, hhighSize⟩ := hexDigit_spec (ch.toNat / 16)
  obtain ⟨hlow, hlowSize⟩ := hexDigit_spec ch.toNat
  have htake : c.rest.take 4 = ['0', '0', hexDigit (ch.toNat / 16), hexDigit ch.toNat] := by
    rw [h]
    rfl
  have hbytes : Text.utf8Length (c.rest.take 4) = 4 := by
    simp only [htake, Text.utf8Length, hhighSize, hlowSize]
    decide
  have hdigits : (c.rest.take 4).mapM hexValue? =
      some [0, 0, ch.toNat / 16 % 16, ch.toNat % 16] := by
    have hzero : hexValue? '0' = some 0 := by decide
    simp [htake, hhigh, hlow, hzero]
  -- the two digits that are not zero make up the number
  have hvalue : [0, 0, ch.toNat / 16 % 16, ch.toNat % 16].foldl (fun n d => 16 * n + d) 0 =
      ch.toNat := by
    simp only [List.foldl_cons, List.foldl_nil]
    omega
  have hhex : readHex c = .ok (ch.toNat, advance 4 c) := by
    rw [readHex, hbytes, if_neg (by decide), hdigits]
    dsimp only
    rw [hvalue]
  refine ⟨advance 4 c, ?_, ?_⟩
  · rw [readCodePoint, hhex]
    have hfirst : (0xDC00 ≤ ch.toNat && ch.toNat ≤ 0xDFFF) = false := by
      rw [decide_eq_false (by omega), Bool.false_and]
    change (if (0xDC00 ≤ ch.toNat && ch.toNat ≤ 0xDFFF) = true then _ else _) = _
    rw [hfirst, if_neg Bool.false_ne_true, if_pos (by simp; omega), Char.ofNat_toNat]
  · rw [advance, h]
    rfl

/-! ### One character -/

theorem readString_backslash (h : c.rest = '\\' :: rest) (fuel : Nat) (acc : List Char) :
    readString (fuel + 1) acc c =
      (readEscape c.skip).bind fun p => readString fuel (p.1 :: acc) p.2 := by
  rw [readString, Cursor.peek?, h]
  rfl

/-- The letters that may stand behind a backslash, each with its character. -/
def letters : List (Char × Char) :=
  [('"', '"'), ('\\', '\\'), ('n', '\n'), ('r', '\r'), ('t', '\t'), ('b', '\x08'), ('f', '\x0c')]

theorem readEscape_of_mem {letter : Char} (hletter : (letter, ch) ∈ letters)
    (h : c.peek? = some letter) : readEscape c = .ok (ch, c.skip) := by
  simp only [letters, List.mem_cons, List.not_mem_nil, or_false, Prod.mk.injEq] at hletter
  rcases hletter with ⟨rfl, rfl⟩ | ⟨rfl, rfl⟩ | ⟨rfl, rfl⟩ | ⟨rfl, rfl⟩ | ⟨rfl, rfl⟩ | ⟨rfl, rfl⟩ |
    ⟨rfl, rfl⟩ <;> (rw [readEscape, h]; rfl)

theorem readString_letter {letter : Char} (h : c.rest = '\\' :: letter :: rest)
    (hletter : (letter, ch) ∈ letters) :
    ∃ c', c'.rest = rest ∧
      ∀ fuel acc, readString (fuel + 1) acc c = readString fuel (ch :: acc) c' := by
  refine ⟨c.skip.skip, by simp [h], fun fuel acc => ?_⟩
  have hpeek : c.skip.peek? = some letter := by simp [Cursor.peek?, h]
  rw [readString_backslash h, readEscape_of_mem hletter hpeek]
  rfl

/-- **One character.** However a character is written down, it is read as it was. -/
theorem readString_escapeChar (h : c.rest = escapeChar ch ++ rest) :
    ∃ c', c'.rest = rest ∧
      ∀ fuel acc, readString (fuel + 1) acc c = readString fuel (ch :: acc) c' := by
  unfold escapeChar at h
  by_cases hquote : ch = '"'
  · subst hquote
    exact readString_letter h (by decide)
  by_cases hslash : ch = '\\'
  · subst hslash
    exact readString_letter h (by decide)
  rw [if_neg hquote, if_neg hslash] at h
  split at h
  · subst ch
    exact readString_letter h (by decide)
  split at h
  · subst ch
    exact readString_letter h (by decide)
  split at h
  · subst ch
    exact readString_letter h (by decide)
  split at h
  · subst ch
    exact readString_letter h (by decide)
  split at h
  · subst ch
    exact readString_letter h (by decide)
  split at h
  · next hcontrol =>
    -- any other control character is written by its number
    have hskip : c.skip.peek? = some 'u' := by simp [Cursor.peek?, h]
    have hdigits : c.skip.skip.rest =
        '0' :: '0' :: hexDigit (ch.toNat / 16) :: hexDigit ch.toNat :: rest := by simp [h]
    obtain ⟨c', hread, hrest⟩ := readCodePoint_hex hcontrol hdigits
    refine ⟨c', hrest, fun fuel acc => ?_⟩
    have hescape : readEscape c.skip = .ok (ch, c') := by
      rw [readEscape, hskip]
      exact hread
    rw [readString_backslash h, hescape]
    rfl
  · next hcontrol =>
    refine ⟨c.skip, by simp [h], fun fuel acc => ?_⟩
    have hpeek : c.peek? = some ch := by simp [Cursor.peek?, h]
    rw [readString, hpeek]
    split
    · next heq => cases heq
    · next heq => exact absurd (Option.some.inj heq) hquote
    · next heq => exact absurd (Option.some.inj heq) hslash
    · next heq =>
      rw [← Option.some.inj heq, if_neg hcontrol]

/-! ### Strings -/

/-- Characters are read one by one, up to the quote. -/
theorem readString_flatMap {cs : List Char} {fuel : Nat} (hfuel : cs.length < fuel)
    (acc : List Char) (h : c.rest = cs.flatMap escapeChar ++ '"' :: rest) :
    ∃ c', readString fuel acc c = .ok (String.ofList (acc.reverse ++ cs), c') ∧
      c'.rest = rest := by
  induction cs generalizing fuel acc c with
  | nil =>
    obtain ⟨fuel, rfl⟩ : ∃ n, fuel = n + 1 := Nat.exists_eq_add_one.mpr hfuel
    refine ⟨c.skip, ?_, by simp [h]⟩
    have hpeek : c.peek? = some '"' := by simp [Cursor.peek?, h]
    rw [readString, hpeek, List.append_nil]
    rfl
  | cons ch cs ih =>
    obtain ⟨fuel, rfl⟩ : ∃ n, fuel = n + 1 :=
      Nat.exists_eq_add_one.mpr (Nat.lt_of_le_of_lt (Nat.zero_le _) hfuel)
    have hchar : c.rest = escapeChar ch ++ (cs.flatMap escapeChar ++ '"' :: rest) := by
      rw [h, List.flatMap_cons, List.append_assoc]
    obtain ⟨c₁, hrest₁, hread₁⟩ := readString_escapeChar hchar
    obtain ⟨c', hread, hrest⟩ := ih (Nat.lt_of_succ_lt_succ hfuel) (ch :: acc) hrest₁
    refine ⟨c', ?_, hrest⟩
    rw [hread₁, hread, List.reverse_cons, List.append_assoc, List.singleton_append]

/-- Written down, a string has at least as many characters. -/
theorem length_le_length_flatMap (cs : List Char) :
    cs.length ≤ (cs.flatMap escapeChar).length := by
  have hone : ∀ ch, 1 ≤ (escapeChar ch).length := by
    intro ch
    unfold escapeChar
    repeat' split
    all_goals simp
  induction cs with
  | nil => exact Nat.le_refl _
  | cons ch cs ih =>
    rw [List.flatMap_cons, List.length_append, List.length_cons]
    have := hone ch
    omega

/-- **Strings.** Behind its first quote, a string in quotes is read as the string that it is, and
what stands behind it is left. -/
theorem readString_quoteChars {cs text : List Char} (h : '"' :: text = Json.quoteChars cs ++ rest) :
    ∃ c, readString (text.length + 1) [] (.ofList text) = .ok (String.ofList cs, c) ∧
      c.rest = rest := by
  have htext : text = cs.flatMap escapeChar ++ '"' :: rest := by
    simpa [Json.quoteChars] using h
  have hfuel : cs.length < text.length + 1 := by
    have := length_le_length_flatMap cs
    rw [htext, List.length_append]
    omega
  exact readString_flatMap hfuel [] (c := .ofList text) htext

end JsonScalar

end DocCheck
