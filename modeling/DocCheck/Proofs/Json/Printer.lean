import DocCheck.Json.Printer
import DocCheck.Proofs.Text.Lines

/-!
# Values on one line

The compact text of a JSON value has no line feed: between quotes it is escaped, and nothing else of
a value holds one.

* `isLine_quoteChars` — strings;
* `DecimalStyle.isLine_render` — numbers;
* `isLine_render` — values.
-/

namespace DocCheck

open Text (IsLine isLine_nil isLine_cons isLine_append)

/-! ### Strings -/

namespace Json

/-- A digit of an escaped character is no line feed. -/
theorem hexDigit_ne (n : Nat) : hexDigit n ≠ '\n' := by
  have hall : ∀ d < 16, Nat.digitChar d ≠ '\n' := by decide
  exact hall _ (Nat.mod_lt n (by decide))

theorem isLine_escapeChar (c : Char) : IsLine (escapeChar c) := by
  unfold escapeChar
  by_cases hquote : c = '"'
  · rw [if_pos hquote]
    decide
  by_cases hslash : c = '\\'
  · rw [if_neg hquote, if_pos hslash]
    decide
  rw [if_neg hquote, if_neg hslash]
  by_cases hfeed : c = '\n'
  · rw [if_pos hfeed]
    decide
  rw [if_neg hfeed]
  -- what remains is a letter behind a backslash, hexadecimal digits, or the character itself
  split
  · decide
  split
  · decide
  split
  · decide
  split
  · decide
  split
  · simp [hexDigit_ne]
  · simp [hfeed]

/-- **Strings.** A string in quotes is a line. -/
@[simp] theorem isLine_quoteChars (cs : List Char) : IsLine (quoteChars cs) := by
  have hchars : IsLine (cs.flatMap escapeChar) :=
    Text.isLine_flatMap.mpr fun c _ => isLine_escapeChar c
  unfold quoteChars
  simp [hchars]

@[simp] theorem isLine_quote (s : String) : IsLine (quote s).toList := by
  rw [quote, String.toList_ofList]
  exact isLine_quoteChars s.toList

end Json

/-! ### Numbers -/

namespace DecimalStyle

variable {digits : List Char}

@[simp] theorem isLine_natDigits (n : Nat) : IsLine (natDigits n).toList := Text.isLine_toString n

@[simp] theorem isLine_intDigits (n : Int) : IsLine (intDigits n).toList := by
  unfold intDigits
  split
  · rw [String.toList_append, isLine_append]
    exact ⟨by decide, isLine_natDigits _⟩
  · exact isLine_natDigits _

theorem isLine_replicate (n : Nat) : IsLine (List.replicate n '0') := by
  intro h
  exact absurd (List.eq_of_mem_replicate h) (by decide)

theorem isLine_plain (h : IsLine digits) (point : Int) : IsLine (plain digits point) := by
  unfold plain
  dsimp only
  split
  · simp [isLine_replicate, h]
  split
  · simp [isLine_replicate, h]
  · simp [h.of_subset (List.take_subset _ _), h.of_subset (List.drop_subset _ _)]

/-- Whether the texts that a style brings are lines. -/
structure IsLinewise (style : DecimalStyle) : Prop where
  positiveSign : IsLine style.positiveSign.toList
  infinity : IsLine style.infinity.toList
  nan : IsLine style.nan.toList

variable {style : DecimalStyle}

theorem isLine_scientific (hs : style.IsLinewise) (h : IsLine digits) (exponent : Int) :
    IsLine (style.scientific digits exponent) := by
  have hmark : IsLine ('e' ::
      ((if 0 ≤ exponent then style.positiveSign else "") ++ intDigits exponent).toList) := by
    rw [isLine_cons, String.toList_append, isLine_append]
    refine ⟨by decide, ?_, isLine_intDigits exponent⟩
    split
    · exact hs.positiveSign
    · exact isLine_nil
  unfold scientific
  dsimp only
  split
  · exact hmark
  · exact isLine_cons.mpr ⟨(isLine_cons.mp h).1, hmark⟩
  · obtain ⟨hd, hds⟩ := isLine_cons.mp h
    exact isLine_cons.mpr ⟨hd, isLine_cons.mpr ⟨by decide, isLine_append.mpr ⟨hds, hmark⟩⟩⟩

/-- **Numbers.** The text of a number is a line. -/
theorem isLine_render (hs : style.IsLinewise) (x : Binary64) : IsLine (style.render x).toList := by
  have hsign : IsLine (if x.isNegative then ['-'] else []) := by split <;> decide
  unfold render
  dsimp only
  split
  · exact hs.nan
  split
  · rw [String.toList_ofList, isLine_append]
    exact ⟨hsign, hs.infinity⟩
  split
  · rw [String.toList_ofList, isLine_append]
    exact ⟨hsign, by decide⟩
  rw [String.toList_ofList, isLine_append]
  refine ⟨hsign, ?_⟩
  split
  · exact isLine_plain (isLine_natDigits _) _
  · exact isLine_scientific hs (isLine_natDigits _) _

end DecimalStyle

@[simp] theorem Number.isLine_render (n : Number) : IsLine n.render.toList := by
  cases n with
  | int n => exact DecimalStyle.isLine_intDigits n
  | float x =>
    have hstyle : jsonDecimals.IsLinewise :=
      ⟨Text.isLine_ofList (by decide), Text.isLine_ofList (by decide),
        Text.isLine_ofList (by decide)⟩
    exact DecimalStyle.isLine_render hstyle x

/-! ### Values -/

namespace Json

mutual

/-- The text of a value is a line. -/
theorem isLine_renderChars : ∀ j : Json, IsLine j.renderChars
  | .null => Text.isLine_ofList (by decide)
  | .bool true => Text.isLine_ofList (by decide)
  | .bool false => Text.isLine_ofList (by decide)
  | .num n => n.isLine_render
  | .str s => isLine_quoteChars s.toList
  | .arr xs =>
    isLine_cons.mpr ⟨by decide, isLine_append.mpr ⟨isLine_renderItems xs, by decide⟩⟩
  | .obj ms =>
    isLine_cons.mpr ⟨by decide, isLine_append.mpr ⟨isLine_renderMembers ms, by decide⟩⟩
  termination_by structural j => j

theorem isLine_renderItems : ∀ xs : List Json, IsLine (renderItems xs)
  | [] => isLine_nil
  | [x] => isLine_renderChars x
  | x :: y :: rest =>
    isLine_append.mpr ⟨isLine_renderChars x,
      isLine_cons.mpr ⟨by decide, isLine_renderItems (y :: rest)⟩⟩
  termination_by structural xs => xs

theorem isLine_renderMembers : ∀ ms : List (String × Json), IsLine (renderMembers ms)
  | [] => isLine_nil
  | [m] => isLine_renderMember m
  | m :: n :: rest =>
    isLine_append.mpr ⟨isLine_renderMember m,
      isLine_cons.mpr ⟨by decide, isLine_renderMembers (n :: rest)⟩⟩
  termination_by structural ms => ms

theorem isLine_renderMember : ∀ m : String × Json, IsLine (renderMember m)
  | (k, v) =>
    isLine_append.mpr ⟨isLine_quoteChars k.toList,
      isLine_cons.mpr ⟨by decide, isLine_renderChars v⟩⟩
  termination_by structural m => m

end

/-- **Values.** The text of a value is a line. -/
@[simp] theorem isLine_render (j : Json) : IsLine j.render.toList := by
  rw [render, String.toList_ofList]
  exact isLine_renderChars j

end Json

end DocCheck
