import DocCheck.Schema.Carrier
import DocCheck.Schema.Application

/-!
# Keywords that hold no subschemas

The parts that such a keyword brings are checks, or say that the keyword is unusable. They refer to
nothing, and some of them depend on what stands beside the keyword.

* `Node.isLeaf`, `Node.rule_of_isLeaf` — parts whose rule does not depend on references;
* `Check.canHave_of_mem_causes` — what a check can find;
* `Keyword.Asks` — what such a keyword may ask, and the keyword under which this is reported;
* `Keyword.areChecks_checkParts` — keywords without subschemas bring such parts;
* `Keyword.checkParts_congr` — what such a keyword may look at beside it.
-/

namespace DocCheck.Schema

/-- Whether a part of a tree is a check, or an unusable keyword. -/
def Node.isLeaf : Node → Bool
  | .check _ _ | .broken _ => true
  | _ => false

/-- What is asked by a part that refers to nothing. -/
theorem Node.rule_of_isLeaf {n : Node} (h : n.isLeaf) (follow follow' : Follow) :
    n.rule follow = n.rule follow' := by
  cases n with
  | check keyword c => rfl
  | broken e => rfl
  | _ => exact Bool.noConfusion h

/-! ### What checks find -/

/-- Whether a check asks for members by name. -/
def Check.requires : Check → Bool
  | .required _ | .requiredWith _ _ => true
  | _ => false

/-- Whether a check asks for an encoding. -/
def Check.decodes : Check → Bool
  | .encoded | .encodedJson => true
  | _ => false

/-- Whether a check asks neither for members nor for an encoding. -/
def Check.isPlain (c : Check) : Bool := !c.requires && !c.decodes

/-- Whether a check can have a cause. -/
def Check.CanHave (c : Check) : Cause → Prop
  | .encoding _ => c.decodes = true
  | .required _ => c.requires = true
  | .additionalProperties _ | .memberName _ | .noAlternative _ | .unevaluatedProperties _ => False
  | _ => True

/-- What is wrong goes by what is asked. -/
theorem Check.canHave_of_mem_causes (c : Check) (v : Json) : ∀ p ∈ c.causes v, c.CanHave p.2 := by
  have hone : ∀ {c : Check} {v : Json} {cause : Cause}, c.CanHave cause →
      ∀ p ∈ [(v, cause)], c.CanHave p.2 :=
    fun h => List.forall_mem_singleton.mpr h
  have hrefuse : ∀ {c : Check} {v : Json} {passed : Bool} {cause : Cause}, c.CanHave cause →
      ∀ p ∈ (refuse passed cause).map fun cause => (v, cause), c.CanHave p.2 := by
    intro c v passed cause h
    unfold refuse
    split
    · exact nofun
    · exact hone h
  have hmissing : ∀ {c : Check} {v : Json} {names : List String} {ms : List (String × Json)},
      c.requires = true → ∀ p ∈ (missing names ms).map fun cause => (v, cause), c.CanHave p.2 := by
    intro c v names ms h p hp
    obtain ⟨cause, hcause, rfl⟩ := List.mem_map.mp hp
    obtain ⟨name, _, rfl⟩ := List.mem_map.mp hcause
    exact h
  -- Only the checks for members and for encodings have causes that are not just their own.
  unfold causes
  dsimp only
  split
  case h_9 =>
    unfold patternCauses
    split
    · exact hrefuse trivial
    · exact hone trivial
  case h_11 => exact hone trivial
  case h_14 => exact hmissing rfl
  case h_15 =>
    split
    · exact hmissing rfl
    · exact nofun
  case h_16 => exact hone trivial
  case h_17 => exact hone trivial
  case h_18 => exact hrefuse rfl
  case h_20 =>
    split
    · exact hone rfl
    · unfold contentCauses
      split
      · exact hone trivial
      · exact hrefuse trivial
  case h_21 => exact nofun
  all_goals exact hrefuse trivial

/-! ### What keywords ask -/

/-- Whether a part of a tree is a check such that `P` holds of it and of the keyword it is reported
under, or an unusable keyword. -/
def Node.IsCheck (P : String → Check → Prop) : Node → Prop
  | .check keyword c => P keyword c
  | .broken _ => True
  | _ => False

namespace Keyword

open Json (lookup)

/-- What a keyword without subschemas may ask, and the keyword under which this is reported. -/
inductive Asks (ms : List (String × Json)) (keyword : String) : String → Check → Prop where
  /-- Most keywords speak for themselves. -/
  | own {c : Check} (hc : c.isPlain) : Asks ms keyword keyword c
  /-- Another keyword says that a limit is excluded, and stands for both. -/
  | exclusive {beside : String} {c : Check}
    (hbeside : beside = "exclusiveMinimum" ∨ beside = "exclusiveMaximum")
    (h : (lookup beside ms).isSome) (hc : c.isPlain) : Asks ms keyword beside c
  /-- Members are asked for. -/
  | required {names : List String} (hk : keyword = "required") :
    Asks ms keyword keyword (.required names)
  /-- Members are asked for if there is another one. -/
  | requiredWith {name : String} {names : List String} (hk : keyword = "dependentRequired") :
    Asks ms keyword keyword (.requiredWith name names)
  /-- A text has to be in an encoding. -/
  | encoded (hk : keyword = "contentEncoding") : Asks ms keyword keyword .encoded
  /-- A text has to be JSON in the encoding that another keyword names. -/
  | encodedJson (h : (lookup "contentEncoding" ms).isSome) : Asks ms keyword keyword .encodedJson

/-- Whether all parts refer to nothing. -/
def AreLeaves (parts : List Node) : Prop := ∀ n ∈ parts, n.isLeaf

/-- Whether all parts are checks such that `P` holds, or unusable keywords. -/
def AreChecks (P : String → Check → Prop) (parts : List Node) : Prop := ∀ n ∈ parts, n.IsCheck P

theorem areLeaves_nil : AreLeaves [] := nofun

theorem areLeaves_check (keyword : String) (c : Check) : AreLeaves [.check keyword c] :=
  List.forall_mem_singleton.mpr rfl

section Parts

variable {P : String → Check → Prop}

theorem AreChecks.areLeaves {parts : List Node} (h : AreChecks P parts) : AreLeaves parts := by
  intro n hn
  cases n with
  | check keyword c => rfl
  | broken e => rfl
  | _ => exact (h _ hn).elim

theorem areChecks_nil : AreChecks P [] := nofun

theorem areChecks_check {keyword : String} {c : Check} (h : P keyword c) :
    AreChecks P [.check keyword c] :=
  List.forall_mem_singleton.mpr h

theorem areChecks_malformed (value : Json) (cause : Cause) :
    AreChecks P (malformed value cause) :=
  List.forall_mem_singleton.mpr trivial

theorem areChecks_mistyped (value : Json) (types : List TypeName) :
    AreChecks P (mistyped value types) :=
  areChecks_malformed value _

/-! ### Unusable values -/

theorem areChecks_of_listedTypes {vs : List Json} {parts : List Node}
    (h : listedTypes vs = .error parts) : AreChecks P parts := by
  induction vs with
  | nil => cases h
  | cons v rest ih =>
    unfold listedTypes at h
    split at h
    · cases h
    · next name vs heq =>
      cases heq
      split at h
      · cases hr : listedTypes rest with
        | ok ts =>
          rw [hr] at h
          cases h
        | error ps =>
          rw [hr] at h
          cases h
          exact ih hr
      · cases h
        exact areChecks_malformed _ _
    · cases h
      exact areChecks_mistyped _ _

theorem areChecks_of_nameList {vs : List Json} {parts : List Node}
    (h : nameList vs = .error parts) : AreChecks P parts := by
  induction vs with
  | nil => cases h
  | cons v rest ih =>
    unfold nameList at h
    split at h
    · cases h
    · next name vs heq =>
      cases heq
      cases hr : nameList rest with
      | ok ns =>
        rw [hr] at h
        cases h
      | error ps =>
        rw [hr] at h
        cases h
        exact ih hr
    · cases h
      exact areChecks_mistyped _ _

theorem areChecks_of_count {pointed : Bool} {value : Json} {parts : List Node}
    (h : count pointed value = .error parts) : AreChecks P parts := by
  unfold count at h
  split at h
  · split at h
    · cases h
    · cases h
      exact areChecks_malformed _ _
  · split at h
    · cases h
    · cases h
      exact areChecks_mistyped _ _
  · cases h
    exact areChecks_mistyped _ _

theorem areChecks_of_matchCount? {d : Draft} {ks : Keywords} {keyword : String}
    {parts : List Node} (h : matchCount? d ks keyword = .error parts) : AreChecks P parts := by
  unfold matchCount? at h
  split at h
  · split at h
    · cases h
    · next v _ =>
      cases hc : count true v with
      | ok n =>
        rw [hc] at h
        cases h
      | error ps =>
        rw [hc] at h
        cases h
        exact areChecks_of_count hc
  · cases h

end Parts

/-! ### Single keywords -/

section Single

variable {ms : List (String × Json)}

theorem areChecks_typePart (d : Draft) (value : Json) :
    AreChecks (Asks ms "type") (typePart d value) := by
  unfold typePart
  split
  · split
    · exact areChecks_check (.own rfl)
    · exact areChecks_malformed _ _
  · exact areChecks_mistyped _ _

theorem areChecks_typeParts (d : Draft) (value : Json) :
    AreChecks (Asks ms "type") (typeParts d value) := by
  unfold typeParts
  split
  · exact areChecks_typePart _ _
  · exact areChecks_typePart _ _
  · split
    · exact areChecks_check (.own rfl)
    · next h => exact areChecks_of_listedTypes h
  · exact areChecks_mistyped _ _

theorem areChecks_requiredParts (value : Json) :
    AreChecks (Asks ms "required") (requiredParts value) := by
  unfold requiredParts
  split
  · split
    · exact areChecks_check (.required rfl)
    · next h => exact areChecks_of_nameList h
  · exact areChecks_mistyped _ _

theorem areChecks_dependentNames (name : String) (value : Json) :
    AreChecks (Asks ms "dependentRequired") (dependentNames name value) := by
  unfold dependentNames
  split
  · split
    · split
      · exact areChecks_check (.requiredWith rfl)
      · next h => exact areChecks_of_nameList h
    · exact areChecks_malformed _ _
  · exact areChecks_mistyped _ _

theorem areChecks_dependentRequiredParts (value : Json) :
    AreChecks (Asks ms "dependentRequired") (dependentRequiredParts value) := by
  unfold dependentRequiredParts
  split
  · intro n hn
    obtain ⟨m, _, hm⟩ := List.mem_flatMap.mp hn
    exact areChecks_dependentNames _ _ n hm
  · exact areChecks_mistyped _ _

theorem areChecks_countParts {d : Draft} {keyword : String} {check : Nat → Check} {value : Json}
    (hcheck : ∀ n, (check n).isPlain) :
    AreChecks (Asks ms keyword) (countParts d keyword check value) := by
  unfold countParts
  split
  · exact areChecks_check (.own (hcheck _))
  · next h =>
    unfold countLimit at h
    split at h
    · cases h
    · exact areChecks_of_count h

theorem areChecks_limitParts {P : String → Check → Prop} {keyword : String}
    {check : Number → Check} {value : Json} (hcheck : ∀ n, P keyword (check n)) :
    AreChecks P (limitParts keyword check value) := by
  unfold limitParts
  split
  · exact areChecks_check (hcheck _)
  · exact areChecks_mistyped _ _

/-- A limit is reported under the keyword that excludes it, if that does. -/
theorem areChecks_inclusiveParts {d : Draft} {keyword exclusive : String}
    {check : Number → Bool → Check} {value : Json}
    (hexclusive : exclusive = "exclusiveMinimum" ∨ exclusive = "exclusiveMaximum")
    (hcheck : ∀ n b, (check n b).isPlain) :
    AreChecks (Asks ms keyword) (inclusiveParts d ms keyword exclusive check value) := by
  unfold inclusiveParts
  split
  · next h =>
    rw [Bool.and_eq_true, beq_iff_eq (b := some (Json.bool true))] at h
    have hbeside : (lookup exclusive ms).isSome := by
      rw [h.2]
      rfl
    exact areChecks_limitParts fun n => .exclusive hexclusive hbeside (hcheck n true)
  · exact areChecks_limitParts fun n => .own (hcheck n false)

theorem areChecks_patternParts (value : Json) :
    AreChecks (Asks ms "pattern") (patternParts value) := by
  unfold patternParts
  split
  · split
    · exact areChecks_check (.own rfl)
    · exact areChecks_malformed _ _
  · exact areChecks_mistyped _ _

theorem areChecks_formatParts (d : Draft) (value : Json) :
    AreChecks (Asks ms "format") (formatParts d value) := by
  unfold formatParts
  split
  · exact areChecks_nil
  · split
    · intro n hn
      obtain ⟨f, _, rfl⟩ := List.mem_map.mp hn
      exact .own rfl
    · exact areChecks_mistyped _ _

theorem areChecks_uniqueParts (value : Json) :
    AreChecks (Asks ms "uniqueItems") (uniqueParts value) := by
  unfold uniqueParts
  split
  · exact areChecks_check (.own rfl)
  · exact areChecks_nil
  · exact areChecks_mistyped _ _

theorem areChecks_mediaTypeParts (value : Json) :
    AreChecks (Asks ms "contentMediaType") (mediaTypeParts ms value) := by
  unfold mediaTypeParts
  split
  · split
    · exact areChecks_nil
    · split
      · exact areChecks_check (.own rfl)
      · next hencoding =>
        split
        · refine areChecks_check (.encodedJson ?_)
          rw [hencoding]
          rfl
        · exact areChecks_nil
      · exact areChecks_mistyped _ _
  · exact areChecks_mistyped _ _

theorem areChecks_encodingParts (value : Json) :
    AreChecks (Asks ms "contentEncoding") (encodingParts ms value) := by
  unfold encodingParts
  split
  · exact areChecks_nil
  · split
    · split
      · exact areChecks_check (.encoded rfl)
      · exact areChecks_nil
    · exact areChecks_mistyped _ _

end Single

/-! ### All of them -/

/-- **Checks.** A keyword without subschemas brings checks that it may ask for. -/
theorem areChecks_checkParts {d : Draft} {ms : List (String × Json)} {keyword : String}
    {value : Json} {parts : List Node} (h : checkParts d ms keyword value = some parts) :
    AreChecks (Asks ms keyword) parts := by
  have hsome : ∀ {keyword : String} {ps : List Node}, some ps = some parts →
      AreChecks (Asks ms keyword) ps → AreChecks (Asks ms keyword) parts := by
    intro keyword ps he hps
    cases he
    exact hps
  have hif : ∀ {keyword : String} {b : Bool} {ps : List Node},
      (if b then some ps else none) = some parts → AreChecks (Asks ms keyword) ps →
        AreChecks (Asks ms keyword) parts := by
    intro keyword b ps he hps
    cases b with
    | false => cases he
    | true => exact hsome he hps
  have hown : ∀ {keyword : String} {check : Number → Check} {value : Json},
      (∀ n, (check n).isPlain) → AreChecks (Asks ms keyword) (limitParts keyword check value) :=
    fun hcheck => areChecks_limitParts fun n => .own (hcheck n)
  -- One case for each keyword; those that not every draft knows may bring no parts at all.
  unfold checkParts at h
  split at h
  · exact hsome h (areChecks_typeParts _ _)
  · exact hsome h (areChecks_requiredParts _)
  · split at h
    · exact hsome h (areChecks_check (.own rfl))
    · exact hsome h (areChecks_mistyped _ _)
  · exact hif h (areChecks_check (.own rfl))
  · exact hsome h (areChecks_inclusiveParts (.inl rfl) fun _ _ => rfl)
  · exact hsome h (areChecks_inclusiveParts (.inr rfl) fun _ _ => rfl)
  · exact hif h (hown fun _ => rfl)
  · exact hif h (hown fun _ => rfl)
  · exact hsome h (hown fun _ => rfl)
  · exact hsome h (areChecks_countParts fun _ => rfl)
  · exact hsome h (areChecks_countParts fun _ => rfl)
  · exact hsome h (areChecks_countParts fun _ => rfl)
  · exact hsome h (areChecks_countParts fun _ => rfl)
  · exact hsome h (areChecks_countParts fun _ => rfl)
  · exact hsome h (areChecks_countParts fun _ => rfl)
  · exact hsome h (areChecks_patternParts _)
  · exact hsome h (areChecks_formatParts _ _)
  · exact hsome h (areChecks_uniqueParts _)
  · exact hif h (areChecks_dependentRequiredParts _)
  · exact hif h (areChecks_mediaTypeParts _)
  · exact hif h (areChecks_encodingParts _)
  · cases h

theorem checkParts_isLeaf {d : Draft} {ms : List (String × Json)} {keyword : String} {value : Json}
    {parts : List Node} (h : checkParts d ms keyword value = some parts) : AreLeaves parts :=
  (areChecks_checkParts h).areLeaves

/-- The keywords that checks look at beside their own. -/
def besideChecks : List String :=
  ["exclusiveMinimum", "exclusiveMaximum", "contentEncoding", "contentMediaType"]

/-- **Beside.** A keyword without subschemas brings the same parts wherever the same stands beside
it. -/
theorem checkParts_congr (d : Draft) {ms ns : List (String × Json)}
    (h : ∀ key ∈ besideChecks, lookup key ns = lookup key ms) (keyword : String) (value : Json) :
    checkParts d ns keyword value = checkParts d ms keyword value := by
  have hmin := h "exclusiveMinimum" (by simp [besideChecks])
  have hmax := h "exclusiveMaximum" (by simp [besideChecks])
  have henc := h "contentEncoding" (by simp [besideChecks])
  have hmedia := h "contentMediaType" (by simp [besideChecks])
  unfold checkParts
  split
  case h_5 => unfold inclusiveParts; rw [hmin]
  case h_6 => unfold inclusiveParts; rw [hmax]
  case h_20 => unfold mediaTypeParts; rw [henc]
  case h_21 => unfold encodingParts; rw [hmedia]
  all_goals rfl

theorem checkParts_of_carrier {keyword : String} (h : Carrier.ofKeyword keyword ≠ .data)
    (d : Draft) (ms : List (String × Json)) (value : Json) :
    checkParts d ms keyword value = none := by
  unfold checkParts
  split
  case h_22 => rfl
  all_goals exact absurd rfl h

end Keyword

end DocCheck.Schema
