import DocCheck.Proofs.Json.Printer
import DocCheck.Proofs.Schema.Found

/-!
# The wording of faults on one line

Values are worded as their compact text, and names mostly in quotes, where a line feed is escaped.
Two things are worded as they are: the text of a pattern, and the names of members that are not
evaluated. A line feed in one of them is a line feed in the message.

* `Cause.Breaks` — the causes that are worded with a line feed;
* `Found.isLine_message_iff` — the message of any other fault is a line.
-/

namespace DocCheck.Schema

open Text (IsLine isLine_append isLine_ofList)

/-- Whether the wording of a cause holds a line feed: one in the text of a pattern, also of one for
names, or in the name of a member that is not evaluated. -/
def Cause.Breaks : Cause → Prop
  | .pattern source => ¬IsLine source.toList
  | .unevaluatedProperties names => ∃ name ∈ names, ¬IsLine name.toList
  | .memberName text => ∃ value source,
      text = (Cause.pattern source).message value ∧ ¬IsLine source.toList
  | _ => False

namespace Cause

/-! ### Parts of messages -/

/-- Texts with commas between them are a line exactly if each of them is. -/
theorem isLine_commas {texts : List String} :
    IsLine (commas texts).toList ↔ ∀ t ∈ texts, IsLine t.toList := by
  rw [commas, String.toList_intercalate]
  induction texts with
  | nil => exact ⟨fun _ => nofun, fun _ => Text.isLine_nil⟩
  | cons t rest ih =>
    cases rest with
    | nil => simp
    | cons u rest =>
      rw [List.map_cons, List.map_cons, List.intercalate_cons_cons, ← List.map_cons, isLine_append,
        isLine_append, ih, List.forall_mem_cons (a := t)]
      have hcomma : IsLine ", ".toList := isLine_ofList (by decide)
      exact ⟨fun h => ⟨h.1.1, h.2⟩, fun h => ⟨⟨h.1, hcomma⟩, h.2⟩⟩

theorem isLine_unexpected {texts : List String} :
    IsLine (unexpected texts).toList ↔ ∀ t ∈ texts, IsLine t.toList := by
  have hverb : IsLine
      (if texts.length = 1 then " was unexpected)" else " were unexpected)").toList := by
    split <;> exact isLine_ofList (by decide)
  have hopen : IsLine "(".toList := isLine_ofList (by decide)
  rw [unexpected, String.toList_append, String.toList_append, isLine_append, isLine_append,
    isLine_commas]
  exact ⟨fun h => h.1.2, fun h => ⟨⟨hopen, h⟩, hverb⟩⟩

theorem isLine_inQuotes {text : String} : IsLine (inQuotes text).toList ↔ IsLine text.toList := by
  have hquote : IsLine "'".toList := isLine_ofList (by decide)
  rw [inQuotes, String.toList_append, String.toList_append, isLine_append, isLine_append]
  exact ⟨fun h => h.1.2, fun h => ⟨⟨hquote, h⟩, hquote⟩⟩

/-- Most messages start with the value and what is said of it. -/
theorem isLine_said (value : Json) {words : List Char} {t : String} (hwords : IsLine words)
    (ht : IsLine t.toList) : IsLine (value.render ++ String.ofList words ++ t).toList :=
  (value.isLine_render.append_ofList hwords).append ht

theorem isLine_divisorText (x : Binary64) : IsLine (divisorText x).toList := by
  have hplain : ∀ style : DecimalStyle, style.IsLinewise → IsLine (style.render x).toList :=
    fun _ hs => DecimalStyle.isLine_render hs x
  unfold divisorText
  dsimp only
  rw [String.toList_ofList]
  split
  · refine Text.IsLine.of_subset (hplain _ ?_) (List.take_subset _ _)
    exact ⟨by decide, by decide, by decide⟩
  · exact hplain _ ⟨by decide, by decide, by decide⟩

theorem isLine_amount (m : Measure) (n : Nat) : IsLine (m.amount n).toList := by
  unfold Measure.amount
  dsimp only
  refine ((Text.isLine_toString n).append_ofList (by decide)).append ?_
  cases m with
  | characters => dsimp only; split <;> exact isLine_ofList (by decide)
  | items => dsimp only; split <;> exact isLine_ofList (by decide)
  | members => dsimp only; split <;> exact isLine_ofList (by decide)

theorem isLine_excluded (exclusive : Bool) :
    IsLine (if exclusive then "or equal to " else "").toList := by
  cases exclusive <;> exact isLine_ofList (by decide)

theorem isLine_utf8Fault (f : Text.Utf8Fault) : IsLine f.message.toList := by
  unfold Text.Utf8Fault.message
  split
  · next n _ =>
    have hlength : IsLine ("invalid utf-8 sequence of " ++ toString n).toList :=
      Text.IsLine.append (isLine_ofList (by decide)) (Text.isLine_toString n)
    exact (hlength.append_ofList (by decide)).append (Text.isLine_toString _)
  · exact Text.IsLine.append (isLine_ofList (by decide)) (Text.isLine_toString _)

/-! ### Messages -/

/-- **Causes** about a value as a whole are worded on one line, except for patterns with a line
feed. -/
theorem isLine_message (value : Json) : ∀ cause : Cause, cause.IsOwn → ¬cause.Breaks →
    IsLine (cause.message value).toList
  | .additionalItems xs, _, _ => by
    refine Text.IsLine.append (isLine_ofList (by decide)) (isLine_unexpected.mpr fun t ht => ?_)
    obtain ⟨x, _, rfl⟩ := List.mem_map.mp ht
    exact x.isLine_render
  | .noAlternative keyword, hown, _ => by
    have hkeyword : IsLine keyword.toList := by
      rcases hown with rfl | rfl <;> exact isLine_ofList (by decide)
    exact (isLine_said value (by decide) hkeyword).append_ofList (by decide)
  | .manyAlternatives, _, _ => value.isLine_render.append_ofList (by decide)
  | .notEqual expected, _, _ => expected.isLine_render.append_ofList (by decide)
  | .contains, _, _ =>
    (Text.IsLine.append (isLine_ofList (by decide)) value.isLine_render).append_ofList (by decide)
  | .encoding name, _, _ =>
    (isLine_said value (by decide) (Json.isLine_quote name)).append_ofList (by decide)
  | .notText fault, _, _ => isLine_utf8Fault fault
  | .mediaType name, _, _ =>
    (isLine_said value (by decide) (Json.isLine_quote name)).append_ofList (by decide)
  | .notListed options, _, _ => isLine_said value (by decide) (Json.arr options).isLine_render
  | .tooSmall limit exclusive, _, _ =>
    ((isLine_said value (by decide) (isLine_excluded exclusive)).append_ofList
      (by decide)).append limit.isLine_render
  | .tooLarge limit exclusive, _, _ =>
    ((isLine_said value (by decide) (isLine_excluded exclusive)).append_ofList
      (by decide)).append limit.isLine_render
  | .never, _, _ => Text.IsLine.append (isLine_ofList (by decide)) value.isLine_render
  | .format name, _, _ => isLine_said value (by decide) (Json.isLine_quote name)
  | .tooFew m n, _, _ => by
    cases m <;> exact isLine_said value (by decide) (isLine_amount _ n)
  | .tooMany m n, _, _ => by
    cases m <;> exact isLine_said value (by decide) (isLine_amount _ n)
  | .notMultiple x, _, _ => isLine_said value (by decide) (isLine_divisorText x)
  | .negated schema, _, _ => isLine_said schema (by decide) value.isLine_render
  | .pattern source, _, hbreaks =>
    (isLine_said value (by decide) (Classical.not_not.mp hbreaks)).append_ofList (by decide)
  | .undecided .backtracking, _, _ => isLine_ofList (by decide)
  | .undecided .ways, _, _ => isLine_ofList (by decide)
  | .required property, _, _ => (Json.isLine_quote property).append_ofList (by decide)
  | .notOfType [], _, _ => (value.isLine_render.append_ofList (by decide)).append_ofList (by decide)
  | .notOfType [t], _, _ => isLine_said value (by decide) (Json.isLine_quote t.name)
  | .notOfType (t :: u :: ts), _, _ => by
    refine isLine_said value (by decide) (isLine_commas.mpr fun name hname => ?_)
    obtain ⟨s, _, rfl⟩ := List.mem_map.mp hname
    exact Json.isLine_quote s.name
  | .unknownType, _, _ => isLine_ofList (by decide)
  | .unevaluatedItems xs, _, _ => by
    refine Text.IsLine.append (isLine_ofList (by decide)) (isLine_unexpected.mpr fun t ht => ?_)
    obtain ⟨x, _, rfl⟩ := List.mem_map.mp ht
    exact isLine_inQuotes.mpr x.isLine_render
  | .repeatedItems, _, _ => value.isLine_render.append_ofList (by decide)
  | .additionalProperties _, hown, _ => hown.elim
  | .unevaluatedProperties _, hown, _ => hown.elim
  | .memberName _, hown, _ => hown.elim

/-- Members that are not evaluated are worded on one line exactly if each of their names is. -/
theorem isLine_message_unevaluated_iff {names : List String} (value : Json) :
    IsLine ((unevaluatedProperties names).message value).toList ↔
      ∀ name ∈ names, IsLine name.toList := by
  have htext : IsLine "Unevaluated properties are not allowed ".toList :=
    isLine_ofList (by decide)
  change IsLine ("Unevaluated properties are not allowed "
    ++ unexpected (names.map inQuotes)).toList ↔ _
  rw [String.toList_append, isLine_append, isLine_unexpected, List.forall_mem_map]
  constructor
  · exact fun h name hname => isLine_inQuotes.mp (h.2 name hname)
  · exact fun h => ⟨htext, fun name hname => isLine_inQuotes.mpr (h name hname)⟩

/-- Of the causes about a value as a whole only patterns are worded with a line feed. -/
theorem exists_pattern_of_breaks {cause : Cause} (hown : cause.IsOwn) (h : cause.Breaks) :
    ∃ source, cause = .pattern source ∧ ¬IsLine source.toList := by
  cases cause with
  | pattern source => exact ⟨source, rfl, h⟩
  | unevaluatedProperties _ => exact hown.elim
  | memberName _ => exact hown.elim
  | _ => exact h.elim

theorem not_isLine_pattern {source : String} (h : ¬IsLine source.toList) (value : Json) :
    ¬IsLine ((pattern source).message value).toList := by
  intro hline
  refine h (hline.of_subset fun c hc => ?_)
  change c ∈ (value.render ++ " does not match \"" ++ source ++ "\"").toList
  rw [String.toList_append, String.toList_append, List.append_assoc]
  exact List.mem_append_right _ (List.mem_append_left _ hc)

/-- A cause that is worded with a line feed has a message with one. -/
theorem not_isLine_message {cause : Cause} (h : cause.Breaks) (value : Json) :
    ¬IsLine (cause.message value).toList := by
  cases cause with
  | pattern source => exact not_isLine_pattern h value
  | unevaluatedProperties names =>
    obtain ⟨name, hname, hbreaks⟩ := h
    exact fun hline => hbreaks ((isLine_message_unevaluated_iff value).mp hline name hname)
  | memberName text =>
    obtain ⟨v, source, rfl, hbreaks⟩ := h
    exact not_isLine_pattern hbreaks v
  | _ => exact h.elim

end Cause

/-! ### Faults -/

theorem Fault.message_below (path keywords : List Json.Step) (f : Fault) :
    (f.below path keywords).message = f.message := by
  rw [message, cause_below, value_below, message]

/-- What is wrong with a string is wrong with it as a whole. -/
theorem Found.isOwn_of_string {s : String} {f : Fault} (h : Found (.str s) f) : f.cause.IsOwn := by
  generalize hv : Json.str s = v at h
  -- All origins but two are in an object or an array.
  induction h with
  | own hown => exact hown
  | under _ _ ih =>
    rw [Fault.cause_below]
    exact ih hv
  | unlisted _ => cases hv
  | unevaluated => cases hv
  | name _ _ _ => cases hv
  | member _ _ _ _ => cases hv
  | item _ _ _ _ => cases hv

/-- A fault that is not worded with a line feed has a message on one line. -/
theorem Found.isLine_message {v : Json} {f : Fault} (h : Found v f)
    (hlisted : ∀ names, f.cause ≠ .additionalProperties names) (hbreaks : ¬f.cause.Breaks) :
    IsLine f.message.toList := by
  induction h with
  | own hown => exact Cause.isLine_message _ _ hown hbreaks
  | unlisted _ => exact absurd rfl (hlisted _)
  | unevaluated =>
    refine (Cause.isLine_message_unevaluated_iff _).mpr fun name hname => ?_
    exact Classical.not_not.mp fun hline => hbreaks ⟨name, hname, hline⟩
  | @name ms m g _ hg _ =>
    -- the message is that of a fault of the name, and such a fault can only break in a pattern
    refine Classical.not_not.mp fun hline => hbreaks ?_
    have hown := hg.isOwn_of_string
    have hinner : g.cause.Breaks := by
      refine Classical.not_not.mp fun hn => hline ?_
      exact Cause.isLine_message g.value g.cause hown hn
    obtain ⟨source, hcause, hsource⟩ := Cause.exists_pattern_of_breaks hown hinner
    exact ⟨g.value, source, by rw [Fault.message, hcause], hsource⟩
  | under _ _ ih =>
    rw [Fault.cause_below] at hlisted hbreaks
    rw [Fault.message_below]
    exact ih hlisted hbreaks
  | member _ _ _ ih =>
    rw [Fault.cause_below] at hlisted hbreaks
    rw [Fault.message_below]
    exact ih hlisted hbreaks
  | item _ _ _ ih =>
    rw [Fault.cause_below] at hlisted hbreaks
    rw [Fault.message_below]
    exact ih hlisted hbreaks

/-- **Messages.** Unless it lists members, a fault has a message on one line exactly if its cause is
not worded with a line feed. -/
theorem Found.isLine_message_iff {v : Json} {f : Fault} (h : Found v f)
    (hlisted : ∀ names, f.cause ≠ .additionalProperties names) :
    IsLine f.message.toList ↔ ¬f.cause.Breaks :=
  ⟨fun hline hbreaks => Cause.not_isLine_message hbreaks f.value hline,
    fun hbreaks => h.isLine_message hlisted hbreaks⟩

end DocCheck.Schema
