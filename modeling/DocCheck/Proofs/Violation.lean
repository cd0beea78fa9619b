import DocCheck.Proofs.Location
import DocCheck.Proofs.Schema.Message
import DocCheck.Validator

/-!
# Violations on one line

The line of a violation is its location and what is said of it. Locations are lines, and of what is
said only some causes bring a line feed.

* `Violation.isLine_line_iff` — a violation that does not name a member;
* `Violation.location_of_mem_ofFault`, `Violation.kind_cases_of_mem_ofFault`,
  `Violation.message_of_mem_ofFault` — the violations for a fault, and its place, cause and message;
* `Violation.isLine_of_mem_ofFault_iff` — which of them are shown on one line;
* `Validator.not_isLine_iff` — the violations that a schema finds in a document.
-/

namespace DocCheck

open Text (IsLine isLine_nil isLine_cons isLine_append isLine_ofList)

namespace Violation

/-! ### Places -/

theorem isLine_withoutDot {cs : List Char} (h : IsLine cs) : IsLine (withoutDot cs) := by
  unfold withoutDot
  split
  · exact (isLine_cons.mp h).2
  · exact h

theorem isLine_memberLocation {location : List Char} (h : IsLine location) (property : List Char) :
    IsLine (memberLocation location property) := by
  unfold memberLocation
  split
  · next hproperty =>
    have hline := Location.isLine_of_isIdentifier hproperty
    split
    · exact hline
    · exact isLine_append.mpr ⟨h, isLine_cons.mpr ⟨by decide, hline⟩⟩
  · refine isLine_append.mpr ⟨h, isLine_cons.mpr ⟨by decide, isLine_append.mpr ⟨?_, by decide⟩⟩⟩
    exact Json.isLine_quoteChars property

/-! ### Lines -/

variable {w : Violation}

theorem isLine_line_of_additionalProperty {property : String}
    (hkind : w.kind = .additionalProperty property) (hlocation : IsLine w.location.toList) :
    IsLine w.line.toList := by
  unfold line
  rw [hkind]
  refine Text.IsLine.append ?_ (isLine_ofList (by decide))
  rw [String.toList_ofList]
  exact isLine_memberLocation hlocation _

/-- Any other violation is shown on one line exactly if its message is one. -/
theorem isLine_line_iff (hkind : ∀ property, w.kind ≠ .additionalProperty property)
    (hlocation : IsLine w.location.toList) : IsLine w.line.toList ↔ IsLine w.message.toList := by
  have hplace : IsLine (withoutDot w.location.toList) := isLine_withoutDot hlocation
  have hspace : IsLine " ".toList := isLine_ofList (by decide)
  unfold line
  split
  · next property hw => exact absurd hw (hkind property)
  dsimp only
  split
  · exact Iff.rfl
  · rw [String.toList_append, String.toList_append, String.toList_ofList, isLine_append,
      isLine_append]
    exact and_iff_right ⟨hplace, hspace⟩

/-! ### Faults -/

variable {document : Json} {f : Schema.Fault}

/-- The violations for a fault are placed where it is. -/
theorem location_of_mem_ofFault (h : w ∈ ofFault document f) :
    w.location = Location.ofPointer (Json.Pointer.render f.path) document := by
  unfold ofFault at h
  dsimp only at h
  split at h
  · obtain ⟨name, _, rfl⟩ := List.mem_map.mp h
    rfl
  · rw [List.mem_singleton.mp h]
  · rw [List.mem_singleton.mp h]

theorem kind_of_mem_ofFault {names : List String} (hcause : f.cause = .additionalProperties names)
    (h : w ∈ ofFault document f) : ∃ name ∈ names, w.kind = .additionalProperty name := by
  unfold ofFault at h
  rw [hcause] at h
  obtain ⟨name, hname, rfl⟩ := List.mem_map.mp h
  exact ⟨name, hname, rfl⟩

/-- The kind of a violation goes by the cause of the fault that it is for. -/
theorem kind_cases_of_mem_ofFault (h : w ∈ ofFault document f) :
    (∃ names name, f.cause = .additionalProperties names ∧ w.kind = .additionalProperty name) ∨
    (∃ property, f.cause = .required property ∧ w.kind = .required property) ∨
    w.kind = .other (keywordOf f.keywords) := by
  unfold ofFault at h
  dsimp only at h
  split at h
  · next names hcause =>
    obtain ⟨name, _, rfl⟩ := List.mem_map.mp h
    exact .inl ⟨names, name, hcause, rfl⟩
  · next property hcause =>
    rw [List.mem_singleton.mp h]
    exact .inr (.inl ⟨property, hcause, rfl⟩)
  · rw [List.mem_singleton.mp h]
    exact .inr (.inr rfl)

/-- Any other fault has a violation with its message, which names no member that is not listed. -/
theorem message_of_mem_ofFault (hcause : ∀ names, f.cause ≠ .additionalProperties names)
    (h : w ∈ ofFault document f) :
    (∀ property, w.kind ≠ .additionalProperty property) ∧ w.message = f.message := by
  unfold ofFault at h
  dsimp only at h
  split at h
  · next names hlisted => exact absurd hlisted (hcause names)
  · rw [List.mem_singleton.mp h]
    exact ⟨fun _ => ViolationKind.noConfusion, rfl⟩
  · rw [List.mem_singleton.mp h]
    exact ⟨fun _ => ViolationKind.noConfusion, rfl⟩

/-- **One fault.** The violations for a fault are shown on one line each exactly if its cause is not
worded with a line feed. -/
theorem isLine_of_mem_ofFault_iff (hdocument : document.SortedKeys)
    (hf : Schema.Found document f) (hw : w ∈ ofFault document f) :
    IsLine w.line.toList ↔ ¬f.cause.Breaks := by
  have hlocation : IsLine w.location.toList := by
    rw [location_of_mem_ofFault hw]
    exact Location.isLine_ofPointer hdocument (hf.at?_isSome hdocument)
  -- Members that are not listed are named by their locations, all other faults by their messages.
  by_cases hlisted : ∃ names, f.cause = .additionalProperties names
  · obtain ⟨names, hcause⟩ := hlisted
    obtain ⟨name, _, hkind⟩ := kind_of_mem_ofFault hcause hw
    have hfits : ¬f.cause.Breaks := by
      rw [hcause]
      exact id
    exact iff_of_true (isLine_line_of_additionalProperty hkind hlocation) hfits
  · have hcause : ∀ names, f.cause ≠ .additionalProperties names :=
      fun names h => hlisted ⟨names, h⟩
    obtain ⟨hkind, hmessage⟩ := message_of_mem_ofFault hcause hw
    rw [isLine_line_iff hkind hlocation, hmessage]
    exact hf.isLine_message_iff hcause

end Violation

/-- **A document.** A violation that a schema finds in a document is not shown on one line exactly
if it is for a fault whose cause is worded with a line feed. -/
theorem Validator.not_isLine_iff {v : Validator} {document : Json} {w : Violation}
    (hdocument : document.SortedKeys) (hw : w ∈ v.violations document) :
    ¬IsLine w.line.toList ↔ ∃ f ∈ v.program.faults document,
      w ∈ Violation.ofFault document f ∧ f.cause.Breaks := by
  constructor
  · intro hbreaks
    obtain ⟨f, hf, hwf⟩ := List.mem_flatMap.mp hw
    refine ⟨f, hf, hwf, Classical.not_not.mp fun h => hbreaks ?_⟩
    have hfound := Schema.Program.found_of_mem_faults hf
    exact (Violation.isLine_of_mem_ofFault_iff hdocument hfound hwf).mpr h
  · rintro ⟨f, hf, hwf, hbreaks⟩ hline
    have hfound := Schema.Program.found_of_mem_faults hf
    exact (Violation.isLine_of_mem_ofFault_iff hdocument hfound hwf).mp hline hbreaks

end DocCheck
