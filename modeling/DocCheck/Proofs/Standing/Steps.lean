import DocCheck.Proofs.Json.Pointer
import DocCheck.Proofs.Schema.Checks
import DocCheck.Proofs.Schema.Found
import DocCheck.Validator

/-!
# Where failing checks stand

The steps to a fault in a schema lead through keywords and references to the keyword that found it.
Only `false` has no keyword of its own: it is the value of one, or has a name, a pattern or an index
under one.

* `Keyword.known`, `HasKeyword` — the keywords of a schema;
* `Holds`, `Refers` — the subschemas and the references of a schema;
* `Standing`, `Stands` — where a check stands, and the steps to it;
* `Stands.keywordOf_eq` — what the last step names;
* `Fault.IsPlaced` — a fault whose steps lead to where it stands.
-/

namespace DocCheck.Schema

open Json (lookup)

/-! ### Keywords and subschemas -/

/-- The keywords that ask something of a value. -/
def Keyword.known : List String :=
  ["$dynamicRef", "$recursiveRef", "$ref", "additionalItems", "additionalProperties", "allOf",
    "anyOf", "const", "contains", "contentEncoding", "contentMediaType", "dependencies",
    "dependentRequired", "dependentSchemas", "else", "enum", "exclusiveMaximum",
    "exclusiveMinimum", "format", "if", "items", "maxContains", "maxItems", "maxLength",
    "maxProperties", "maximum", "minContains", "minItems", "minLength", "minProperties",
    "minimum", "multipleOf", "not", "oneOf", "pattern", "patternProperties", "prefixItems",
    "properties", "propertyNames", "required", "then", "type", "unevaluatedItems",
    "unevaluatedProperties", "uniqueItems"]

/-- The keywords that ask for members by name. -/
def Keyword.requiring : List String := ["dependencies", "dependentRequired", "required"]

/-- Whether a schema with these members has a keyword. -/
structure HasKeyword (ms : List (String × Json)) (keyword : String) : Prop where
  /-- It asks something. -/
  known : keyword ∈ Keyword.known
  /-- It is among the members. -/
  member : ∃ value, (keyword, value) ∈ ms

/-- The subschemas that a schema with these members holds, and the steps to them. -/
inductive Holds (ms : List (String × Json)) : List Json.Step → Json → Prop where
  /-- The value of a keyword. -/
  | whole {k : String} {v : Json} (hk : Holding.ofKeyword k = .direct) (hm : (k, v) ∈ ms) :
    Holds ms [.key k] v
  /-- A schema of a list. -/
  | item {k : String} {xs : List Json} {i : Nat} {x : Json} (hk : Holding.ofKeyword k = .direct)
    (hm : (k, .arr xs) ∈ ms) (hx : xs[i]? = some x) : Holds ms [.key k, .index i] x
  /-- A schema with a name or a pattern. -/
  | named {k name : String} {es : List (String × Json)} {x : Json}
    (hk : Holding.ofKeyword k = .named) (hm : (k, .obj es) ∈ ms) (hx : (name, x) ∈ es) :
    Holds ms [.key k, .key name] x

/-- The references of a schema with these members. -/
inductive Refers (scope : Scope) (ms : List (String × Json)) : Reference → Prop where
  /-- A reference by a text. -/
  | text {k text : String} (hk : k = "$ref" ∨ k = "$dynamicRef") (hm : (k, .str text) ∈ ms) :
    Refers scope ms ⟨scope, k, some text⟩
  /-- A reference to the schema around it. -/
  | recursive {v : Json} (hm : ("$recursiveRef", v) ∈ ms) :
    Refers scope ms ⟨scope, "$recursiveRef", none⟩

/-! ### Standing -/

/-- Where a check stands in a schema. -/
inductive Standing where
  /-- Under no keyword: the whole schema is `false`. -/
  | whole
  /-- Under a keyword. -/
  | under (keyword : String)
  /-- Under a keyword, as a `false` with a name, a pattern or an index there. -/
  | chosen (keyword : String) (step : Json.Step)
  deriving DecidableEq

namespace Standing

/-- The keyword under which a check stands. -/
def keyword : Standing → String
  | whole => "schema"
  | under keyword => keyword
  | chosen keyword _ => keyword

/-- Where the check stands that these steps lead to. -/
def ofSteps : List Json.Step → Standing
  | [] | .index _ :: _ => whole
  | [.key k] => under k
  -- An index belongs to the keyword before it, and so does a name if that keyword maps names to
  -- schemas; behind any other keyword a key is a keyword again.
  | .key k :: .index i :: rest => if rest = [] then chosen k (.index i) else ofSteps rest
  | .key k :: .key name :: rest =>
    if Holding.ofKeyword k = .named then
      if rest = [] then chosen k (.key name) else ofSteps rest
    else ofSteps (.key name :: rest)

/-- What the steps to a check name last. -/
def lastName : Standing → String
  | whole => "schema"
  | under keyword => keyword
  | chosen keyword step =>
    if step.text = [] then keyword else String.ofList step.text

/-- Whether a cause can be that of a check which stands there. A text that is none is not placed. -/
def Fits (s : Standing) : Cause → Prop
  | .additionalProperties _ => s = under "additionalProperties"
  | .required _ => ∃ keyword ∈ Keyword.requiring, s = under keyword
  | .notText _ => False
  | _ => True

end Standing

/-- **Standing.** The steps from a schema to where a check stands. They lead through subschemas and
references. -/
inductive Stands (st : Store) : Target → List Json.Step → Standing → Prop where
  /-- The schema is `false`. -/
  | whole {scope : Scope} : Stands st ⟨scope, .bool false⟩ [] .whole
  /-- The schema has the keyword. -/
  | under {scope : Scope} {ms : List (String × Json)} {k : String} (hk : HasKeyword ms k) :
    Stands st ⟨scope, .obj ms⟩ [.key k] (.under k)
  /-- A subschema with a name or an index is `false`. -/
  | chosen {scope : Scope} {ms : List (String × Json)} {k : String} {step : Json.Step}
    (h : Holds ms [.key k, step] (.bool false)) :
    Stands st ⟨scope, .obj ms⟩ [.key k, step] (.chosen k step)
  /-- The check stands in a subschema. -/
  | within {scope inner : Scope} {ms : List (String × Json)} {steps path : List Json.Step}
    {w : Json} {s : Standing} (h : Holds ms steps w) (hscope : scope.inside w = .ok inner)
    (hs : Stands st ⟨inner, w⟩ path s) (hne : path ≠ []) :
    Stands st ⟨scope, .obj ms⟩ (steps ++ path) s
  /-- The check stands in what a reference means. -/
  | reference {scope : Scope} {ms : List (String × Json)} {r : Reference} {t : Target}
    {path : List Json.Step} {s : Standing} (hr : Refers scope ms r)
    (ht : st.target r = .ok (some t)) (hs : Stands st t path s) (hne : path ≠ []) :
    Stands st ⟨scope, .obj ms⟩ (.key r.keyword :: path) s

/-! ### What the last step names -/

section Names

variable {st : Store} {t : Target} {ms : List (String × Json)} {path : List Json.Step}
  {s : Standing} {k : String}

theorem known_ne_empty (h : k ∈ Keyword.known) : k ≠ "" := by
  rintro rfl
  revert h
  decide

/-- What holds subschemas is a keyword. -/
theorem known_of_holding (h : Holding.ofKeyword k ≠ .data) : k ∈ Keyword.known := by
  have hknown : ∀ {ks : List String}, (∀ key ∈ ks, key ∈ Keyword.known) → ks.contains k = true →
      k ∈ Keyword.known :=
    fun hks hk => hks k (List.contains_iff_mem.mp hk)
  -- Which keywords hold subschemas is listed by two lists, both of known keywords.
  unfold Holding.ofKeyword at h
  split at h
  · next hnamed => exact hknown (by decide) hnamed
  · split at h
    · next hdirect => exact hknown (by decide) hdirect
    · exact absurd rfl h

theorem Holds.hasKeyword {steps : List Json.Step} {w : Json} (h : Holds ms (.key k :: steps) w) :
    HasKeyword ms k := by
  cases h with
  | whole hk hm => exact ⟨known_of_holding (hk ▸ by decide), _, hm⟩
  | item hk hm _ => exact ⟨known_of_holding (hk ▸ by decide), _, hm⟩
  | named hk hm _ => exact ⟨known_of_holding (hk ▸ by decide), _, hm⟩

theorem Refers.hasKeyword {scope : Scope} {r : Reference} (h : Refers scope ms r) :
    HasKeyword ms r.keyword := by
  cases h with
  | text hk hm =>
    refine ⟨?_, _, hm⟩
    rcases hk with rfl | rfl
    · exact (by decide : "$ref" ∈ Keyword.known)
    · exact (by decide : "$dynamicRef" ∈ Keyword.known)
  | recursive hm => exact ⟨(by decide : "$recursiveRef" ∈ Keyword.known), _, hm⟩

/-- The last step is what is named, unless its text is empty. -/
theorem keywordOf_concat (steps : List Json.Step) (step : Json.Step) :
    Violation.keywordOf (steps ++ [step]) =
      if step.text = [] then Violation.keywordOf steps else String.ofList step.text := by
  -- Keys and indices are both told by a text.
  have hname : ∀ (name : String) (names : List String),
      ((name :: names).find? fun n => n != "").getD "schema" =
        if name.toList = [] then (names.find? fun n => n != "").getD "schema"
        else String.ofList name.toList := by
    intro name names
    rw [List.find?_cons, String.ofList_toList]
    by_cases hempty : name = ""
    · rw [hempty, if_pos (String.toList_eq_nil_iff.mpr rfl)]
      rfl
    · rw [if_neg (mt String.toList_eq_nil_iff.mp hempty), bne_iff_ne.mpr hempty]
      rfl
  unfold Violation.keywordOf
  dsimp only
  rw [List.map_append, List.map_singleton, List.reverse_append, List.reverse_singleton,
    List.singleton_append]
  cases step with
  | key name => exact hname name _
  | index i => exact hname (toString i) _

theorem keywordOf_key (steps : List Json.Step) (h : k ∈ Keyword.known) :
    Violation.keywordOf (steps ++ [.key k]) = k := by
  rw [keywordOf_concat, Json.Step.text, if_neg, String.ofList_toList]
  intro hempty
  exact known_ne_empty h (String.toList_eq_nil_iff.mp hempty)

/-- Wherever one starts from, the steps to a check that stands somewhere go on naming the same. -/
theorem Stands.keywordOf_append (h : Stands st t path s) (hne : path ≠ [])
    (steps : List Json.Step) : Violation.keywordOf (steps ++ path) = s.lastName := by
  induction h generalizing steps with
  | whole => exact absurd rfl hne
  | under hk => exact keywordOf_key steps hk.known
  -- A text that is empty is passed over, and then the keyword before it is the last name.
  | @chosen _ _ k step h =>
    rw [List.append_cons, keywordOf_concat, keywordOf_key steps h.hasKeyword.known]
    rfl
  | within _ _ _ hpath ih =>
    rw [← List.append_assoc]
    exact ih hpath _
  | reference _ _ _ hpath ih =>
    rw [List.append_cons]
    exact ih hpath _

/-- The only schema that is reached in no step and refuses everything is `false`. -/
theorem Stands.eq_false (h : Stands st t [] s) : s = .whole ∧ t.schema = .bool false := by
  generalize hpath : [] = path at h
  cases h with
  | whole => exact ⟨rfl, rfl⟩
  | under => cases hpath
  | chosen => cases hpath
  | within _ _ _ hne => exact absurd (List.append_eq_nil_iff.mp hpath.symm).2 hne
  | reference => cases hpath

/-- Steps to a check begin with a keyword. -/
theorem Stands.exists_key (h : Stands st t path s) (hne : path ≠ []) :
    ∃ k rest, path = .key k :: rest := by
  cases h with
  | whole => exact absurd rfl hne
  | under => exact ⟨_, _, rfl⟩
  | chosen h => exact ⟨_, _, rfl⟩
  | within hw => cases hw <;> exact ⟨_, _, rfl⟩
  | reference => exact ⟨_, _, rfl⟩

/-- A reference holds no subschemas. -/
theorem Refers.holding {scope : Scope} {r : Reference} (h : Refers scope ms r) :
    Holding.ofKeyword r.keyword = .data := by
  cases h with
  | text hk _ => rcases hk with rfl | rfl <;> rfl
  | recursive => rfl

/-- **One standing.** The steps to a check tell where it stands. -/
theorem Stands.eq_ofSteps (h : Stands st t path s) : s = .ofSteps path := by
  -- A keyword with a single schema or a reference is one step; what follows starts with a keyword.
  have hskip : ∀ {k : String} {path : List Json.Step}, Holding.ofKeyword k ≠ .named →
      (∃ name rest, path = .key name :: rest) →
      Standing.ofSteps (.key k :: path) = .ofSteps path := by
    rintro k _ hk ⟨name, rest, rfl⟩
    rw [Standing.ofSteps, if_neg hk]
  induction h with
  | whole => rfl
  | under => rfl
  | chosen h =>
    cases h with
    | item => rfl
    | named hk => rw [Standing.ofSteps, if_pos hk, if_pos rfl]
  | within hw _ hs hne ih =>
    rw [ih]
    cases hw with
    | whole hk => exact (hskip (hk ▸ by decide) (hs.exists_key hne)).symm
    | item => exact (if_neg hne).symm
    | named hk =>
      change _ = Standing.ofSteps (.key _ :: .key _ :: _)
      rw [Standing.ofSteps, if_pos hk]
      exact (if_neg hne).symm
  | reference hr _ hs hne ih =>
    rw [ih]
    exact (hskip (hr.holding ▸ by decide) (hs.exists_key hne)).symm

example : Standing.ofSteps [.key "properties", .key "items", .key "items", .key "type"] =
    .under "type" := by decide

/-- Only a check of the whole schema stands under no keyword. -/
theorem Stands.eq_false_of_whole (h : Stands st t path .whole) : t.schema = .bool false := by
  have hnil : ∀ {t path s}, Stands st t path s → s = .whole → path = [] := by
    intro t path s h
    induction h with
    | whole => exact fun _ => rfl
    | under => exact fun hs => nomatch hs
    | chosen => exact fun hs => nomatch hs
    | within _ _ _ hne ih => exact fun hs => absurd (ih hs) hne
    | reference _ _ _ hne ih => exact fun hs => absurd (ih hs) hne
  obtain rfl := hnil h rfl
  exact h.eq_false.2

/-- **Names.** The last name on the steps to a check is that of its standing. -/
theorem Stands.keywordOf_eq (h : Stands st t path s) :
    Violation.keywordOf path = s.lastName := by
  by_cases hne : path = []
  · subst hne
    rw [h.eq_false.1]
    rfl
  · exact h.keywordOf_append hne []

end Names

/-! ### Placed faults -/

/-- Whether the steps to a fault lead to where it stands. A fault that is not placed keeps no steps,
and is one of a schema with keywords. -/
inductive Fault.IsPlaced (st : Store) (t : Target) (f : Fault) : Prop where
  /-- The fault is not placed. -/
  | nowhere {ms : List (String × Json)} (hf : f.isUnplaced = true) (hkeywords : f.keywords = [])
    (hobject : t.schema = .obj ms)
  /-- The fault stands somewhere. -/
  | standing {s : Standing} (hs : Stands st t f.keywords s) (hfits : s.Fits f.cause)

/-- What fits where the whole schema is `false` fits anywhere. -/
theorem Standing.Fits.of_whole {cause : Cause} (h : whole.Fits cause) (s : Standing) :
    s.Fits cause := by
  cases cause with
  | additionalProperties names => exact nomatch h
  | required property =>
    obtain ⟨_, _, h⟩ := h
    exact nomatch h
  | notText fault => exact h
  | _ => trivial

namespace Fault

variable {st : Store} {scope : Scope} {ms : List (String × Json)} {f : Fault}

theorem isUnplaced_of_fits {s : Standing} (h : s.Fits f.cause) : f.isUnplaced = false := by
  unfold isUnplaced
  split
  · next fault hcause =>
    rw [hcause] at h
    exact h.elim
  · rfl

theorem isUnplaced_below (path keywords : List Json.Step) (f : Fault) :
    (f.below path keywords).isUnplaced = f.isUnplaced := by
  unfold isUnplaced
  rw [cause_below]

theorem keywords_below (path keywords : List Json.Step) (f : Fault) :
    (f.below path keywords).keywords =
      if f.isUnplaced then f.keywords else keywords ++ f.keywords := by
  unfold below
  split <;> rfl

/-- Where steps lead to a schema, a standing in that schema is a standing in the schema around it;
that of a `false` becomes the standing of `false` there. -/
theorem IsPlaced.below {t : Target} (h : f.IsPlaced st t) (keywords : List Json.Step)
    (hpath : ∀ {path s}, Stands st t path s → path ≠ [] →
      Stands st ⟨scope, .obj ms⟩ (keywords ++ path) s)
    (hfalse : t.schema = .bool false → ∃ s, Stands st ⟨scope, .obj ms⟩ keywords s)
    (path : List Json.Step) : (f.below path keywords).IsPlaced st ⟨scope, .obj ms⟩ := by
  cases h with
  | nowhere hf hkeywords _ =>
    refine .nowhere ?_ ?_ rfl
    · rw [isUnplaced_below, hf]
    · rw [keywords_below, if_pos hf, hkeywords]
  | @standing s hs hfits =>
    have hsteps : (f.below path keywords).keywords = keywords ++ f.keywords := by
      rw [keywords_below, isUnplaced_of_fits hfits]
      rfl
    rw [← cause_below path keywords f] at hfits
    -- Without steps of its own the fault is that of a `false`, and stands where this does.
    by_cases hne : f.keywords = []
    · rw [hne] at hs hsteps
      obtain ⟨rfl, hschema⟩ := hs.eq_false
      obtain ⟨s, houter⟩ := hfalse hschema
      rw [← List.append_nil keywords, ← hsteps] at houter
      exact .standing houter (hfits.of_whole s)
    · have houter := hpath hs hne
      rw [← hsteps] at houter
      exact .standing houter hfits

/-- **Subschemas.** A fault of a subschema is placed in the schema around it. -/
theorem IsPlaced.subschema {inner : Scope} {steps : List Json.Step} {w : Json}
    (hw : Holds ms steps w) (hscope : scope.inside w = .ok inner) (h : f.IsPlaced st ⟨inner, w⟩)
    (path : List Json.Step) : (f.below path steps).IsPlaced st ⟨scope, .obj ms⟩ := by
  refine h.below steps (fun hs hne => .within hw hscope hs hne) (fun hfalse => ?_) path
  obtain rfl : w = .bool false := hfalse
  cases hw with
  | whole hk hm => exact ⟨_, .under ⟨known_of_holding (hk ▸ by decide), _, hm⟩⟩
  | item hk hm hx => exact ⟨_, .chosen (.item hk hm hx)⟩
  | named hk hm hx => exact ⟨_, .chosen (.named hk hm hx)⟩

/-- **References.** So is one of what a reference means. -/
theorem IsPlaced.reference {r : Reference} {t : Target} (hr : Refers scope ms r)
    (ht : st.target r = .ok (some t)) (h : f.IsPlaced st t) (path : List Json.Step) :
    (f.below path [.key r.keyword]).IsPlaced st ⟨scope, .obj ms⟩ := by
  refine h.below [.key r.keyword] (fun hs hne => .reference hr ht hs hne) (fun _ => ?_) path
  exact ⟨_, .under hr.hasKeyword⟩

end Fault

end DocCheck.Schema
