import DocCheck.Proofs.Run.Basic
import DocCheck.Proofs.Schema.Told
import DocCheck.Proofs.Violation

/-!
# From faults to outcomes

What the schema finds in a document reaches the report unabridged. The violations are the faults
told one after the other, and a document is valid only if there was nothing to tell.

* `Violation.IsTold`, `Violation.isTold_ofFault` — how one fault is told;
* `Violation.flatMap_ofFault` — how a list of faults is told;
* `checkText_eq_valid_iff` — the texts that are valid;
* `checkPath_ne`, `outcome_ne_of_mem_results` — no outcome speaks of violations and has none;
* `Validator.violations_told` — all of it for a validator.
-/

namespace DocCheck

namespace Violation

/-- The violations `ws` tell of the fault `f` in a document. -/
structure IsTold (document : Json) (f : Schema.Fault) (ws : List Violation) : Prop where
  /-- All of them are placed where the fault is. -/
  location : ∀ w ∈ ws, w.location = Location.ofPointer (Json.Pointer.render f.path) document
  /-- Members that are not listed are named one by one, in their order. -/
  unlisted : ∀ names, f.cause = .additionalProperties names →
    ws.map kind = names.map ViolationKind.additionalProperty
  /-- A member that is missing is named once. -/
  missing : ∀ property, f.cause = .required property → ws.map kind = [.required property]
  /-- Anything else is told once, under its keyword. -/
  once : (∀ names, f.cause ≠ .additionalProperties names) →
    (∀ property, f.cause ≠ .required property) → ws.map kind = [.other (keywordOf f.keywords)]
  /-- What is told once is told in the words of the fault. -/
  message : (∀ names, f.cause ≠ .additionalProperties names) → ws.map message = [f.message]

variable {document : Json} {f : Schema.Fault}

/-- **One fault.** The violations for a fault tell of it. -/
theorem isTold_ofFault (document : Json) (f : Schema.Fault) :
    IsTold document f (ofFault document f) where
  location := fun _ hw => location_of_mem_ofFault hw
  unlisted := by
    intro names hcause
    unfold ofFault
    rw [hcause]
    exact List.map_map
  missing := by
    intro property hcause
    unfold ofFault
    rw [hcause]
    rfl
  once := by
    intro hunlisted hmissing
    unfold ofFault
    dsimp only
    split
    · next names hcause => exact absurd hcause (hunlisted names)
    · next property hcause => exact absurd hcause (hmissing property)
    · rfl
  message := by
    intro hunlisted
    unfold ofFault
    dsimp only
    split
    · next names hcause => exact absurd hcause (hunlisted names)
    · rfl
    · rfl

/-- **Some faults.** They are told one after the other. -/
theorem flatMap_ofFault (document : Json) (faults : List Schema.Fault) :
    ∃ blocks : List (List Violation), faults.flatMap (ofFault document) = blocks.flatten ∧
      List.Forall₂ (IsTold document) faults blocks := by
  refine ⟨faults.map (ofFault document), rfl, ?_⟩
  rw [List.forall₂_map_right_iff, List.forall₂_same]
  intro f _
  exact isTold_ofFault document f

end Violation

/-! ### Outcomes -/

theorem Outcome.ofViolations_ne (violations : List Violation) :
    ofViolations violations ≠ .schemaErrors [] := by
  unfold ofViolations
  cases violations with
  | nil => exact Outcome.noConfusion
  | cons first rest => exact fun h => List.cons_ne_nil _ _ (Outcome.schemaErrors.inj h)

variable {v : Validator} {text : String}

/-- **A text** is valid if it is a document in which the schema finds no fault. -/
theorem checkText_eq_valid_iff : checkText v text = .valid ↔
    ∃ document, readDocument text = .ok document ∧ v.program.faults document = [] := by
  unfold checkText
  cases readDocument text with
  | error e => exact iff_of_false Outcome.noConfusion fun ⟨_, h, _⟩ => nomatch h
  | ok document =>
    -- An outcome is made of violations, and these are none exactly if there are no faults.
    have hvalid : Outcome.ofViolations (v.violations document) = .valid ↔
        v.violations document = [] := by
      unfold Outcome.ofViolations
      cases v.violations document with
      | nil => exact iff_of_true rfl rfl
      | cons first rest => exact iff_of_false Outcome.noConfusion (List.cons_ne_nil _ _)
    rw [hvalid, v.violations_eq_nil_iff]
    refine ⟨fun h => ⟨document, rfl, h⟩, ?_⟩
    rintro ⟨other, hother, h⟩
    rwa [Except.ok.inj hother]

theorem checkText_ne (v : Validator) (text : String) : checkText v text ≠ .schemaErrors [] := by
  unfold checkText
  cases readDocument text with
  | error e => exact Outcome.noConfusion
  | ok document => exact Outcome.ofViolations_ne _

theorem checkPath_ne (files : Files) (v : Validator) (path : String) :
    checkPath files v path ≠ .schemaErrors [] := by
  unfold checkPath
  cases files.read path with
  | error e => exact Outcome.noConfusion
  | ok text => exact checkText_ne v text

theorem outcome_ne_of_mem_results {files : Files} {config : Config} {tokens : List String}
    {report : Report} (h : (run files config tokens).result = .ok report) {r : FileResult}
    (hr : r ∈ report.results) : r.outcome ≠ .schemaErrors [] := by
  obtain ⟨_, v, f, _, _, _, rfl⟩ := exists_file_of_mem_results h hr
  exact checkPath_ne files v f.path

/-! ### Validators -/

/-- **Nothing is lost.** What a validator reports about a document is what its schema finds there,
fault by fault and in the same order, and no fault is reported by nothing. Hence there are no
violations exactly if there are no faults, a text is valid exactly if it is a document without
faults, and neither a text, nor a file, nor a whole run ever comes to violations of which there are
none. -/
theorem Validator.violations_told (v : Validator) :
    (∀ document, ∃ blocks : List (List Violation),
      v.violations document = blocks.flatten ∧
      List.Forall₂ (Violation.IsTold document) (v.program.faults document) blocks ∧
      (∀ f ∈ v.program.faults document, f.cause ≠ .additionalProperties []) ∧
      (v.violations document = [] ↔ v.program.faults document = [])) ∧
    (∀ text, checkText v text = .valid ↔
      ∃ document, readDocument text = .ok document ∧ v.program.faults document = []) ∧
    (∀ text, checkText v text ≠ .schemaErrors []) ∧
    (∀ files path, checkPath files v path ≠ .schemaErrors []) ∧
    (∀ files config tokens report, (run files config tokens).result = .ok report →
      ∀ r ∈ report.results, r.outcome ≠ .schemaErrors []) := by
  refine ⟨fun document => ?_, fun _ => checkText_eq_valid_iff, checkText_ne v,
    fun files path => checkPath_ne files v path,
    fun _ _ _ _ h _ hr => outcome_ne_of_mem_results h hr⟩
  obtain ⟨blocks, hflatten, htold⟩ :=
    Violation.flatMap_ofFault document (v.program.faults document)
  refine ⟨blocks, hflatten, htold, fun f hf => ?_, v.violations_eq_nil_iff document⟩
  -- The one way to lose a fault would be a list of unlisted members without any.
  have hfound : Schema.Found document f := Schema.Program.found_of_mem_faults hf
  exact hfound.cause_ne

end DocCheck
