import DocCheck.Proofs.Standing.Steps

/-!
# Rules whose faults are placed

What one kind of keyword finds is placed if what its subschemas find is, and what a check finds stands
under a keyword of the schema.

* `Rule.Places`, `Rule.PlacesBehind` — rules whose faults are placed;
* `Rule.places_select`, `Rule.places_allOf`, … — one for each kind of keyword;
* `Rule.places_check`, `Keyword.Asks.bears` — the checks of a schema.
-/

namespace DocCheck.Schema

open Json (lookup)

namespace Rule

/-- Whether all faults that a rule finds are placed. -/
def Places (st : Store) (t : Target) (r : Rule) : Prop :=
  ∀ seen v, ∀ f ∈ r.faults seen v, f.IsPlaced st t

/-- Whether all of them are placed once these steps are in front of theirs. -/
def PlacesBehind (st : Store) (t : Target) (keywords : List Json.Step) (r : Rule) : Prop :=
  ∀ seen v, ∀ f ∈ r.faults seen v, ∀ path, (f.below path keywords).IsPlaced st t

variable {st : Store} {t : Target} {scope : Scope} {ms : List (String × Json)}

/-! ### Steps in front -/

theorem PlacesBehind.under {r : Rule} {keywords : List Json.Step}
    (h : r.PlacesBehind st t keywords) (v : Json) :
    ∀ f ∈ under keywords (r.apply v), f.IsPlaced st t := by
  intro f hf
  obtain ⟨g, hg, rfl⟩ := List.mem_map.mp hf
  exact h _ v g hg []

theorem PlacesBehind.within {r : Rule} {keywords : List Json.Step}
    (h : r.PlacesBehind st t keywords) (step : Json.Step) (v : Json) :
    ∀ f ∈ within step keywords (r.apply v), f.IsPlaced st t := by
  intro f hf
  obtain ⟨g, hg, rfl⟩ := List.mem_map.mp hf
  exact h _ v g hg [step]

theorem places_always : always.Places st t := fun _ _ => nofun

theorem placesBehind_always (keywords : List Json.Step) : always.PlacesBehind st t keywords :=
  fun _ _ => nofun

theorem isPlaced_of_mem_demand {passed : Bool} {keyword : String} {v : Json} {cause : Cause}
    {f : Fault} (hf : f ∈ demand passed keyword v cause) (hk : HasKeyword ms keyword)
    (hfits : (Standing.under keyword).Fits cause) : f.IsPlaced st ⟨scope, .obj ms⟩ := by
  unfold demand at hf
  split at hf
  · exact nomatch hf
  · rw [List.mem_singleton.mp hf]
    exact .standing (.under hk) hfits

/-! ### Members -/

theorem isPlaced_of_mem_onMember {entries : List (Selector × Rule)}
    (h : ∀ e ∈ entries, e.2.PlacesBehind st t e.1.keywords) (m : String × Json) :
    ∀ f ∈ onMember entries m, f.IsPlaced st t := by
  intro f hf
  obtain ⟨e, he, hfe⟩ := List.mem_flatMap.mp hf
  exact (h e (List.mem_of_mem_filter he)).within _ _ f hfe

theorem places_select {entries : List (Selector × Rule)}
    (h : ∀ e ∈ entries, e.2.PlacesBehind st t e.1.keywords) : (select entries).Places st t := by
  intro _ v f hf
  obtain ⟨e, he, hfe⟩ := List.mem_flatMap.mp hf
  obtain ⟨m, _, hfm⟩ := List.mem_flatMap.mp hfe
  exact isPlaced_of_mem_onMember (List.forall_mem_singleton.mpr (h e he)) m f hfm

theorem places_closed {entries : List (Selector × Rule)}
    (hk : HasKeyword ms "additionalProperties")
    (h : ∀ e ∈ entries, e.2.PlacesBehind st ⟨scope, .obj ms⟩ e.1.keywords) :
    (closed entries).Places st ⟨scope, .obj ms⟩ := by
  intro _ v f hf
  rcases List.mem_append.mp hf with hf | hf
  · obtain ⟨m, _, hfm⟩ := List.mem_flatMap.mp hf
    exact isPlaced_of_mem_onMember h m f hfm
  · exact isPlaced_of_mem_demand hf hk rfl

theorem places_others {entries : List (Selector × Rule)} {other : Rule}
    (h : ∀ e ∈ entries, e.2.PlacesBehind st t e.1.keywords)
    (ho : other.PlacesBehind st t [.key "additionalProperties"]) :
    (others entries other).Places st t := by
  intro _ v f hf
  obtain ⟨m, _, hfm⟩ := List.mem_flatMap.mp hf
  split at hfm
  · exact isPlaced_of_mem_onMember h m f hfm
  · exact ho.within _ _ f hfm

/-- A fault in a name is reported with the object, but it stands where it was found. -/
theorem places_names {name : Rule} (hk : HasKeyword ms "propertyNames")
    (h : name.PlacesBehind st ⟨scope, .obj ms⟩ [.key "propertyNames"]) :
    (names name).Places st ⟨scope, .obj ms⟩ := by
  intro _ v f hf
  obtain ⟨m, _, hfm⟩ := List.mem_flatMap.mp hf
  obtain ⟨g, hg, rfl⟩ := List.mem_map.mp hfm
  -- With its message in another cause, a fault that was not placed gets a place.
  cases h _ _ g hg [] with
  | nowhere hunplaced hkeywords _ =>
    rw [Fault.isUnplaced_below] at hunplaced
    rw [Fault.keywords_below, if_pos hunplaced] at hkeywords
    unfold nameFault
    rw [hkeywords]
    exact .standing (.under hk) trivial
  | standing hs hfits =>
    rw [Fault.cause_below] at hfits
    rw [Fault.keywords_below, Fault.isUnplaced_of_fits hfits] at hs
    exact .standing hs trivial

theorem places_dependent {keyword : String} {entries : List (Selector × Rule)}
    (h : ∀ e ∈ entries, ∀ name, e.1.selects name →
      e.2.PlacesBehind st t [.key keyword, .key name]) :
    (dependent keyword entries).Places st t := by
  intro _ v f hf
  obtain ⟨p, hp, hfp⟩ := List.mem_flatMap.mp hf
  obtain ⟨e, he, hpe⟩ := List.mem_flatMap.mp hp
  obtain ⟨m, hm, rfl⟩ := List.mem_map.mp hpe
  exact (h e he m.1 (List.mem_filter.mp hm).2).under v f hfp

theorem places_unevaluatedMembers {other : Rule} (hk : HasKeyword ms "unevaluatedProperties") :
    (unevaluatedMembers other).Places st ⟨scope, .obj ms⟩ :=
  fun _ _ _ hf => isPlaced_of_mem_demand hf hk trivial

/-! ### Items -/

theorem places_items {keyword : String} {start : Nat} {item : Rule}
    (h : item.PlacesBehind st t [.key keyword]) : (items keyword start item).Places st t := by
  intro _ v f hf
  obtain ⟨p, _, hfp⟩ := List.mem_flatMap.mp hf
  exact h.within _ _ f hfp

/-- The items of an array meet the schemas with their indices. -/
theorem getElem?_of_mem_zip_itemsOf {v : Json} {rules : List Rule} {p : (Json × Nat) × Rule}
    (h : p ∈ (itemsOf v).zip rules) : rules[p.1.2]? = some p.2 := by
  cases v with
  | arr xs =>
    obtain ⟨i, hi, rfl⟩ := List.getElem_of_mem h
    have hrules : i < rules.length := by
      rw [List.length_zip] at hi
      omega
    change i < (xs.zipIdx.zip rules).length at hi
    change rules[((xs.zipIdx.zip rules)[i]).1.2]? = some ((xs.zipIdx.zip rules)[i]).2
    rw [List.getElem_zip, List.getElem_zipIdx, Nat.zero_add]
    exact List.getElem?_eq_getElem hrules
  | _ => exact nomatch h

theorem places_tuple {keyword : String} {rules : List Rule}
    (h : ∀ {i : Nat} {r : Rule}, rules[i]? = some r →
      r.PlacesBehind st t [.key keyword, .index i]) :
    (tuple keyword rules).Places st t := by
  intro _ v f hf
  obtain ⟨p, hp, hfp⟩ := List.mem_flatMap.mp hf
  exact (h (getElem?_of_mem_zip_itemsOf hp)).within _ _ f hfp

theorem places_contains {item : Rule} {least most : Option Nat}
    (hk : ∀ {count keyword}, countKeyword count least most = some keyword →
      HasKeyword ms keyword) :
    (contains item least most).Places st ⟨scope, .obj ms⟩ := by
  intro _ v f hf
  unfold contains at hf
  dsimp only at hf
  split at hf
  · next keyword hcount =>
    exact isPlaced_of_mem_demand hf (hk hcount) trivial
  · exact nomatch hf

theorem places_unevaluatedItems {other : Rule} (hk : HasKeyword ms "unevaluatedItems") :
    (unevaluatedItems other).Places st ⟨scope, .obj ms⟩ :=
  fun _ _ _ hf => isPlaced_of_mem_demand hf hk trivial

/-! ### Combinations -/

theorem places_inTurn {rules : List Rule} (h : ∀ r ∈ rules, r.Places st t) :
    (inTurn rules).Places st t := by
  intro _ v f hf
  obtain ⟨r, hr, hfr⟩ := List.mem_flatMap.mp hf
  exact h r hr _ v f hfr

theorem places_allOf {rules : List Rule}
    (h : ∀ {i : Nat} {r : Rule}, rules[i]? = some r →
      r.PlacesBehind st t [.key "allOf", .index i]) :
    (allOf rules).Places st t := by
  intro _ v f hf
  obtain ⟨p, hp, hfp⟩ := List.mem_flatMap.mp hf
  exact (h (List.mem_zipIdx_iff_getElem?.mp hp)).under v f hfp

theorem places_anyOf {rules : List Rule} (hk : HasKeyword ms "anyOf") :
    (anyOf rules).Places st ⟨scope, .obj ms⟩ :=
  fun _ _ _ hf => isPlaced_of_mem_demand hf hk trivial

theorem places_oneOf {rules : List Rule} (hk : HasKeyword ms "oneOf") :
    (oneOf rules).Places st ⟨scope, .obj ms⟩ := by
  intro _ v f hf
  unfold oneOf at hf
  dsimp only at hf
  split at hf
  · exact isPlaced_of_mem_demand hf hk trivial
  · exact isPlaced_of_mem_demand hf hk trivial

theorem places_negation {rule : Rule} {source : Json} (hk : HasKeyword ms "not") :
    (negation rule source).Places st ⟨scope, .obj ms⟩ :=
  fun _ _ _ hf => isPlaced_of_mem_demand hf hk trivial

theorem places_choice {condition yes no : Rule} (hyes : yes.PlacesBehind st t [.key "then"])
    (hno : no.PlacesBehind st t [.key "else"]) : (choice condition yes no).Places st t := by
  intro _ v f hf
  unfold choice at hf
  dsimp only at hf
  split at hf
  · exact hyes.under v f hf
  · exact hno.under v f hf

end Rule

/-! ### Checks -/

section Parts

variable {st : Store} {follow : Follow} {scope : Scope} {ms : List (String × Json)}

/-- Whether a check may be reported under a keyword of a schema. -/
structure Check.Bears (ms : List (String × Json)) (keyword : String) (c : Check) : Prop where
  /-- The schema has the keyword. -/
  hasKeyword : HasKeyword ms keyword
  /-- Members are asked for by few keywords. -/
  requires : c.requires = true → keyword ∈ Keyword.requiring
  /-- Where an encoding is asked for, the schema names one. -/
  decodes : c.decodes = true → HasKeyword ms "contentEncoding"

/-- **Checks.** What a check finds stands under a keyword of the schema. -/
theorem Rule.places_check {keyword : String} {c : Check} (h : c.Bears ms keyword) :
    (check keyword c).Places st ⟨scope, .obj ms⟩ := by
  intro _ v f hf
  obtain ⟨⟨w, cause⟩, hp, rfl⟩ := List.mem_map.mp hf
  have hcan : c.CanHave cause := c.canHave_of_mem_causes v _ hp
  -- A text that is none has lost its steps, and an encoding is told under the keyword beside.
  cases cause with
  | notText fault => exact .nowhere rfl rfl rfl
  | encoding name => exact .standing (.under (h.decodes hcan)) trivial
  | required name => exact .standing (.under h.hasKeyword) ⟨keyword, h.requires hcan, rfl⟩
  | additionalProperties names => exact hcan.elim
  | _ => exact .standing (.under h.hasKeyword) trivial

/-- A plain check may be reported under any keyword of the schema. -/
theorem Check.bears_of_isPlain {keyword : String} {c : Check} (hk : HasKeyword ms keyword)
    (hc : c.isPlain = true) : c.Bears ms keyword := by
  unfold isPlain at hc
  rw [Bool.and_eq_true, Bool.not_eq_true', Bool.not_eq_true'] at hc
  obtain ⟨hrequires, hdecodes⟩ := hc
  refine ⟨hk, fun h => ?_, fun h => ?_⟩
  · rw [hrequires] at h
    exact nomatch h
  · rw [hdecodes] at h
    exact nomatch h

/-- What a keyword without subschemas asks is reported under keywords of the schema. -/
theorem Keyword.Asks.bears {k keyword : String} {v : Json} {c : Check} (hk : k ∈ known)
    (hm : (k, v) ∈ ms) (h : Asks ms k keyword c) : c.Bears ms keyword := by
  have hown : HasKeyword ms k := ⟨hk, v, hm⟩
  have hbeside : ∀ {beside : String}, beside ∈ known → (lookup beside ms).isSome →
      HasKeyword ms beside := by
    intro beside hknown hsome
    obtain ⟨w, hw⟩ := Option.isSome_iff_exists.mp hsome
    exact ⟨hknown, w, Json.mem_of_lookup hw⟩
  cases h with
  | own hc => exact Check.bears_of_isPlain hown hc
  | exclusive hk hsome hc =>
    refine Check.bears_of_isPlain (hbeside ?_ hsome) hc
    rcases hk with rfl | rfl <;> decide
  | required hk => exact ⟨hown, fun _ => hk ▸ by decide, nofun⟩
  | requiredWith hk => exact ⟨hown, fun _ => hk ▸ by decide, nofun⟩
  | encoded hk => exact ⟨hown, nofun, fun _ => hk ▸ hown⟩
  | encodedJson hsome => exact ⟨hown, nofun, fun _ => hbeside (by decide) hsome⟩

theorem Keyword.known_of_checkParts {d : Draft} {k : String} {v : Json} {parts : List Node}
    (h : checkParts d ms k v = some parts) : k ∈ known := by
  unfold checkParts at h
  split at h
  case h_22 => exact nomatch h
  all_goals decide

end Parts

end DocCheck.Schema
