import DocCheck.Proofs.Schema.Found
import DocCheck.Validator

/-!
# Every fault is told

Members that a schema does not list are told one by one, so that a fault that spoke of no member
would be told by no violation at all. No schema finds such a fault: a document without violations
has no faults.

* `Found.cause_ne` — a fault that lists members lists at least one;
* `Violation.ofFault_ne_nil` — some violation is for each fault;
* `Validator.violations_eq_nil_iff` — no violations, no faults.
-/

namespace DocCheck

/-- **Listed members.** No fault lists no members. -/
theorem Schema.Found.cause_ne {v : Json} {f : Schema.Fault} (h : Schema.Found v f) :
    f.cause ≠ .additionalProperties [] := by
  induction h with
  | @own _ _ _ cause hown =>
    rintro rfl
    exact hown
  | unlisted hne => exact fun h => hne (Schema.Cause.additionalProperties.inj h)
  | unevaluated => exact Schema.Cause.noConfusion
  | name _ _ _ => exact Schema.Cause.noConfusion
  | under _ _ ih => rwa [Schema.Fault.cause_below]
  | member _ _ _ ih => rwa [Schema.Fault.cause_below]
  | item _ _ _ ih => rwa [Schema.Fault.cause_below]

/-- A fault that lists no members apart, some violation is for it. -/
theorem Violation.ofFault_ne_nil {f : Schema.Fault} (h : f.cause ≠ .additionalProperties [])
    (document : Json) : ofFault document f ≠ [] := by
  unfold ofFault
  dsimp only
  split
  · next names hc =>
    rw [ne_eq, List.map_eq_nil_iff]
    rintro rfl
    exact h hc
  · exact List.cons_ne_nil _ _
  · exact List.cons_ne_nil _ _

/-- **Violations.** A document without violations has no faults, and the other way round. -/
theorem Validator.violations_eq_nil_iff (v : Validator) (document : Json) :
    v.violations document = [] ↔ v.program.faults document = [] := by
  unfold violations
  rw [List.flatMap_eq_nil_iff]
  refine ⟨fun h => ?_, fun h f hf => ?_⟩
  · refine List.eq_nil_iff_forall_not_mem.mpr fun f hf => ?_
    have hfound : Schema.Found document f := Schema.Program.found_of_mem_faults hf
    exact Violation.ofFault_ne_nil hfound.cause_ne document (h f hf)
  · rw [h] at hf
    exact nomatch hf

end DocCheck
