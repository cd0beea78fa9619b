import DocCheck.Proofs.Standing.Keywords
import DocCheck.Proofs.Tighten.Build
import DocCheck.Proofs.Violation

/-!
# The keyword of a violation

A violation is to name the keyword under which the failing check stands. It does, but for three
causes: a `false` with a name, a pattern or an index is told by these, a missing member is always
told as one that `required` asks for, and a text that is none is told as if the schema had no
keywords.

* `IsReported` — what the keyword of a violation says;
* `Violation.isReported_of_mem_ofFault` — the violations for a fault;
* `Validator.keyword_of_mem_violations` — the violations of a document.
-/

namespace DocCheck

open Schema

/-- What the keyword of a violation for a fault says about where the failing check stands. -/
structure IsReported (p : Program) (f : Fault) (kind : ViolationKind) : Prop where
  /-- The steps to the fault lead from the schema to the check. -/
  stands : Stands p.store p.root f.keywords (.ofSteps f.keywords)
  /-- Only for a schema that is `false` there is no keyword. -/
  whole : Standing.ofSteps f.keywords = .whole → p.root.schema = .bool false
  /-- A missing member is told as one that `required` asks for, whichever keyword does. -/
  missing : ∀ property, kind = .required property → kind.keyword = "required" ∧
    ∃ keyword ∈ Keyword.requiring, Standing.ofSteps f.keywords = .under keyword
  /-- Anything else is told by the last name on the steps. -/
  named : (∀ property, kind ≠ .required property) →
    kind.keyword = (Standing.ofSteps f.keywords).lastName
  /-- This is the keyword under which the check stands, unless another one asks for the member, or
  the check is a `false` whose name or index is not empty, and not that keyword either. -/
  right_iff : kind.keyword = (Standing.ofSteps f.keywords).keyword ↔
    (∀ property, kind = .required property → Standing.ofSteps f.keywords = .under "required") ∧
    ∀ keyword step, Standing.ofSteps f.keywords = .chosen keyword step →
      step.text = [] ∨ String.ofList step.text = keyword

namespace Violation

variable {p : Program} {f : Fault} {document : Json} {w : Violation}

/-- The last name is the keyword, unless a `false` has a name or an index that says otherwise. -/
theorem lastName_eq_keyword_iff (s : Standing) : s.lastName = s.keyword ↔
    ∀ keyword step, s = .chosen keyword step →
      step.text = [] ∨ String.ofList step.text = keyword := by
  cases s with
  | whole => exact iff_of_true rfl nofun
  | under keyword => exact iff_of_true rfl nofun
  | chosen keyword step =>
    have hchosen : (Standing.chosen keyword step).lastName = keyword ↔
        step.text = [] ∨ String.ofList step.text = keyword := by
      -- The empty text is passed over by the name, so that it does no harm.
      change (if step.text = [] then keyword else String.ofList step.text) = keyword ↔ _
      by_cases hempty : step.text = []
      · rw [if_pos hempty]
        exact iff_of_true rfl (.inl hempty)
      · rw [if_neg hempty]
        exact (or_iff_right hempty).symm
    refine hchosen.trans ⟨?_, fun h => h keyword step rfl⟩
    rintro h _ _ ⟨⟩
    exact h

/-- Whatever does not tell a missing member tells the last name on the steps. -/
theorem isReported_of_lastName {kind : ViolationKind}
    (hs : Stands p.store p.root f.keywords (.ofSteps f.keywords))
    (hkind : ∀ property, kind ≠ .required property)
    (hname : kind.keyword = (Standing.ofSteps f.keywords).lastName) : IsReported p f kind where
  stands := hs
  whole := fun hwhole => (hwhole ▸ hs).eq_false_of_whole
  missing := fun property h => absurd h (hkind property)
  named := fun _ => hname
  right_iff := by
    rw [hname, lastName_eq_keyword_iff]
    exact (and_iff_right fun property h => absurd h (hkind property)).symm

/-- A missing member is told as one that `required` asks for, whichever keyword does. -/
theorem isReported_of_required {property keyword : String}
    (hs : Stands p.store p.root f.keywords (.ofSteps f.keywords))
    (hkeyword : keyword ∈ Keyword.requiring)
    (hstanding : Standing.ofSteps f.keywords = .under keyword) :
    IsReported p f (.required property) where
  stands := hs
  whole := fun hwhole => (hwhole ▸ hs).eq_false_of_whole
  missing := fun _ _ => ⟨rfl, keyword, hkeyword, hstanding⟩
  named := fun h => absurd rfl (h property)
  right_iff := by
    rw [hstanding]
    constructor
    · intro h
      exact ⟨fun _ _ => congrArg Standing.under h.symm, nofun⟩
    · rintro ⟨h, _⟩
      exact (Standing.under.inj (h property rfl)).symm

/-- **One fault.** The violations for a fault that is placed say this about where it stands. -/
theorem isReported_of_mem_ofFault {s : Standing} (hs : Stands p.store p.root f.keywords s)
    (hfits : s.Fits f.cause) (hw : w ∈ ofFault document f) : IsReported p f w.kind := by
  obtain rfl : s = .ofSteps f.keywords := hs.eq_ofSteps
  -- A member that is not allowed stands under `additionalProperties` and nowhere else.
  rcases kind_cases_of_mem_ofFault hw with
    ⟨names, name, hcause, hkind⟩ | ⟨property, hcause, hkind⟩ | hkind
  · have hstanding : Standing.ofSteps f.keywords = .under "additionalProperties" := by
      rw [hcause] at hfits
      exact hfits
    rw [hkind]
    refine isReported_of_lastName hs (fun _ => ViolationKind.noConfusion) ?_
    rw [hstanding]
    rfl
  · rw [hcause] at hfits
    obtain ⟨keyword, hkeyword, hstanding⟩ := hfits
    rw [hkind]
    exact isReported_of_required hs hkeyword hstanding
  · rw [hkind]
    exact isReported_of_lastName hs (fun _ => ViolationKind.noConfusion) hs.keywordOf_eq

/-- A fault that is not placed is told as if the schema had no keywords. -/
theorem keyword_of_isUnplaced (hf : f.isUnplaced = true) (hkeywords : f.keywords = [])
    (hw : w ∈ ofFault document f) : w.kind.keyword = "schema" := by
  unfold Schema.Fault.isUnplaced at hf
  rcases kind_cases_of_mem_ofFault hw with
    ⟨names, name, hcause, _⟩ | ⟨property, hcause, _⟩ | hkind
  · rw [hcause] at hf
    exact nomatch hf
  · rw [hcause] at hf
    exact nomatch hf
  · rw [hkind, hkeywords]
    rfl

end Violation

/-- **The keyword of a violation.** Each violation is for a fault whose steps lead from the schema,
through subschemas and references, to the keyword under which the failing check stands. This is the
keyword that the violation names, except that a `false` is told by its name, pattern or index if it
has one there that is not empty, and a missing member as one that `required` asks for. A fault that
is not placed is told by `schema`, although the schema has keywords. -/
theorem Validator.keyword_of_mem_violations {v : Validator} {document : Json} {w : Violation}
    (hw : w ∈ v.violations document) :
    ∃ f ∈ v.program.faults document, w ∈ Violation.ofFault document f ∧
      (f.isUnplaced = false ∧ IsReported v.program f w.kind ∨
        f.isUnplaced = true ∧ w.kind.keyword = "schema" ∧
          ∃ ms, v.program.root.schema = .obj ms) := by
  obtain ⟨f, hf, hwf⟩ := List.mem_flatMap.mp hw
  refine ⟨f, hf, hwf, ?_⟩
  cases Program.isPlaced_of_mem_faults hf with
  | nowhere hunplaced hkeywords hobject =>
    exact .inr ⟨hunplaced, Violation.keyword_of_isUnplaced hunplaced hkeywords hwf, _, hobject⟩
  | standing hs hfits =>
    exact .inl ⟨Fault.isUnplaced_of_fits hfits, Violation.isReported_of_mem_ofFault hs hfits hwf⟩

/-- A schema that allows no member `a`. -/
def noMemberSchema : Json :=
  .obj
    [("$schema", .str "http://json-schema.org/draft-07/schema#"),
      ("properties", .obj [("a", .bool false)])]

/-- A document with that member. -/
def memberDocument : Json := .obj [("a", .num (.int 1))]

theorem compile_noMemberSchema :
    (Validator.compile .profile noMemberSchema "profiles.json"
        ⟨noFiles, ".", .loose⟩).result.toOption.map (fun v => v.program.faults memberDocument) =
      some [⟨[.key "a"], [.key "properties", .key "a"], .num (.int 1), .never⟩] := by
  decide +kernel

/-- The violation names the member where the check stands under `properties`. -/
theorem Validator.keyword_of_mem_violations_noMemberSchema :
    ∃ v, (Validator.compile .profile noMemberSchema "profiles.json" ⟨noFiles, ".", .loose⟩).result =
        .ok v ∧
      ∃ w ∈ v.violations memberDocument, w.kind.keyword = "a" ∧
      ∃ f ∈ v.program.faults memberDocument, w ∈ Violation.ofFault memberDocument f ∧
        f.keywords = [.key "properties", .key "a"] ∧
        Standing.ofSteps f.keywords = .chosen "properties" (.key "a") ∧
        (f.isUnplaced = false ∧ IsReported v.program f w.kind ∨
          f.isUnplaced = true ∧ w.kind.keyword = "schema" ∧
            ∃ ms, v.program.root.schema = .obj ms) := by
  obtain ⟨v, hv, hfaults⟩ := exists_of_toOption compile_noMemberSchema
  have hw : (⟨".a", .other "a", "False schema does not allow 1"⟩ : Violation) ∈
      v.violations memberDocument := by
    unfold Validator.violations
    rw [hfaults]
    decide +kernel
  obtain ⟨f, hf, hwf, hreported⟩ := Validator.keyword_of_mem_violations hw
  have hsteps : f.keywords = [.key "properties", .key "a"] := by
    rw [hfaults] at hf
    rw [List.mem_singleton.mp hf]
  refine ⟨v, hv, _, hw, rfl, f, hf, hwf, hsteps, ?_, hreported⟩
  rw [hsteps]
  rfl

end DocCheck
