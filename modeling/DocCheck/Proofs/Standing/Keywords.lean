import DocCheck.Proofs.Schema.Tree
import DocCheck.Proofs.Standing.Rules

/-!
# Every fault is placed

The steps to a fault lead to where it stands: what a keyword brings is placed if what its subschemas
find is, and a schema finds what its keywords find.

* `PartsPlace`, `SubschemasPlace` — parts of a tree, and the subschemas around which they stand;
* `partsPlace_memberParts` — what a member of a schema brings;
* `Target.places_compile`, `Store.follow_places` — schemas, and what references mean;
* `Program.isPlaced_of_mem_faults` — compiled schemas.
-/

namespace DocCheck.Schema

open Json (lookup)

/-! ### Parts of trees -/

section Parts

variable {st : Store} {follow : Follow} {scope : Scope} {ms : List (String × Json)}

/-- Whether all faults that some parts of a tree find are placed. -/
def PartsPlace (st : Store) (follow : Follow) (t : Target) (parts : List Node) : Prop :=
  ∀ n ∈ parts, (n.rule follow).Places st t

theorem partsPlace_nil {t : Target} : PartsPlace st follow t [] := nofun

theorem partsPlace_singleton {t : Target} {n : Node} (h : (n.rule follow).Places st t) :
    PartsPlace st follow t [n] :=
  List.forall_mem_singleton.mpr h

theorem partsPlace_ite {t : Target} {c : Prop} [Decidable c] {parts others : List Node}
    (h : PartsPlace st follow t parts) (h' : PartsPlace st follow t others) :
    PartsPlace st follow t (if c then parts else others) := by
  split
  · exact h
  · exact h'

theorem partsPlace_of_areChecks {P : String → Check → Prop} {parts : List Node}
    (h : Keyword.AreChecks P parts) (hP : ∀ {keyword c}, P keyword c → c.Bears ms keyword) :
    PartsPlace st follow ⟨scope, .obj ms⟩ parts := by
  intro n hn
  have hcheck := h n hn
  cases n with
  | check keyword c => exact Rule.places_check (hP hcheck)
  | broken e => exact Rule.places_always
  | _ => exact hcheck.elim

theorem partsPlace_mistyped {t : Target} (v : Json) (types : List TypeName) :
    PartsPlace st follow t (Keyword.mistyped v types) :=
  partsPlace_singleton Rule.places_always

end Parts

/-! ### Keywords with subschemas -/

/-- What subschemas and references of a schema find is placed in the schema. -/
structure SubschemasPlace (st : Store) (follow : Follow) (scope : Scope)
    (ms : List (String × Json)) : Prop where
  /-- Subschemas. -/
  subschema : ∀ {steps : List Json.Step} {w : Json}, Holds ms steps w →
    ((compile scope w).rule follow).PlacesBehind st ⟨scope, .obj ms⟩ steps
  /-- References. -/
  reference : ∀ {r : Reference}, Refers scope ms r →
    (follow r).PlacesBehind st ⟨scope, .obj ms⟩ [.key r.keyword]

namespace SubschemasPlace

variable {st : Store} {follow : Follow} {scope : Scope} {ms : List (String × Json)} {k : String}
  {v : Json}

theorem whole (h : SubschemasPlace st follow scope ms) (hk : Holding.ofKeyword k = .direct)
    (hm : (k, v) ∈ ms) :
    ((subtrees scope k v).whole.rule follow).PlacesBehind st ⟨scope, .obj ms⟩ [.key k] := by
  rw [subtrees_of_direct hk]
  exact h.subschema (.whole hk hm)

theorem item (h : SubschemasPlace st follow scope ms) (hk : Holding.ofKeyword k = .direct)
    (hm : (k, v) ∈ ms) {i : Nat} {r : Rule}
    (hr : (rules follow (subtrees scope k v).items)[i]? = some r) :
    r.PlacesBehind st ⟨scope, .obj ms⟩ [.key k, .index i] := by
  rw [subtrees_of_direct hk, rules_eq_map] at hr
  cases v with
  | arr xs =>
    change ((compileItems scope xs).map _)[i]? = some r at hr
    rw [compileItems_eq_map, List.map_map, List.getElem?_map, Option.map_eq_some_iff] at hr
    obtain ⟨x, hx, rfl⟩ := hr
    exact h.subschema (.item hk hm hx)
  | _ => exact nomatch hr

/-- The entries for names. -/
theorem nameEntries (h : SubschemasPlace st follow scope ms) (hk : Holding.ofKeyword k = .named)
    (hm : (k, v) ∈ ms) :
    ∀ e ∈ entryRules follow (Keyword.nameEntries (subtrees scope k v)), ∃ name,
      e.1 = .name name ∧ e.2.PlacesBehind st ⟨scope, .obj ms⟩ [.key k, .key name] := by
  rw [nameEntries_subtrees scope hk, entryRules_eq_map, List.map_map]
  intro e he
  obtain ⟨m, hmem, rfl⟩ := List.mem_map.mp he
  refine ⟨m.1, rfl, ?_⟩
  cases v with
  | obj es => exact h.subschema (.named hk hm hmem)
  | _ => exact nomatch hmem

theorem properties (h : SubschemasPlace st follow scope ms) (hm : ("properties", v) ∈ ms) :
    ∀ e ∈ entryRules follow (Keyword.nameEntries (subtrees scope "properties" v)),
      e.2.PlacesBehind st ⟨scope, .obj ms⟩ e.1.keywords := by
  intro e he
  obtain ⟨name, hname, hplaces⟩ := h.nameEntries rfl hm e he
  rw [hname]
  exact hplaces

/-- The entries for patterns; a text that is no pattern finds nothing. -/
theorem patternProperties (h : SubschemasPlace st follow scope ms)
    (hm : ("patternProperties", v) ∈ ms) :
    ∀ e ∈ entryRules follow
        (Keyword.patternEntries v (subtrees scope "patternProperties" v)),
      e.2.PlacesBehind st ⟨scope, .obj ms⟩ e.1.keywords := by
  rw [patternEntries_subtrees, entryRules_eq_map, List.map_map]
  intro e he
  obtain ⟨m, hmem, rfl⟩ := List.mem_map.mp he
  dsimp only [Function.comp_apply]
  unfold Keyword.patternEntry
  split
  · cases v with
    | obj es => exact h.subschema (.named rfl hm hmem)
    | _ => exact nomatch hmem
  · exact Rule.placesBehind_always _

/-- The entries for all members that the schema lists. -/
theorem listedEntries (h : SubschemasPlace st follow scope ms) :
    ∀ e ∈ entryRules follow (Keyword.listedEntries (compileMembers scope ms)),
      e.2.PlacesBehind st ⟨scope, .obj ms⟩ e.1.keywords := by
  unfold Keyword.listedEntries
  rw [find?_compileMembers, find?_compileMembers, entryRules_eq_map, List.map_append,
    ← entryRules_eq_map, ← entryRules_eq_map]
  intro e he
  rcases List.mem_append.mp he with he | he
  · cases hv : lookup "properties" ms with
    | none =>
      rw [hv] at he
      exact nomatch he
    | some v =>
      rw [hv] at he
      exact h.properties (Json.mem_of_lookup hv) e he
  · cases hv : lookup "patternProperties" ms with
    | none =>
      rw [hv] at he
      exact nomatch he
    | some v =>
      rw [hv] at he
      exact h.patternProperties (Json.mem_of_lookup hv) e he

/-- A branch beside `if`. -/
theorem branch (h : SubschemasPlace st follow scope ms) (hk : Holding.ofKeyword k = .direct) :
    ((Keyword.branch (compileMembers scope ms) k).rule follow).PlacesBehind st ⟨scope, .obj ms⟩
      [.key k] := by
  unfold Keyword.branch
  rw [find?_compileMembers]
  cases hv : lookup k ms with
  | none => exact Rule.placesBehind_always _
  | some v =>
    -- A branch is a schema with one part, so that what it finds is what the part finds.
    intro seen w f hf
    rw [Option.map_some, Option.elim_some, rule_all] at hf
    obtain ⟨r, hr, hfr⟩ := List.mem_flatMap.mp hf
    rw [List.mem_singleton.mp hr] at hfr
    exact h.whole hk (Json.mem_of_lookup hv) _ w f hfr

end SubschemasPlace

section Applicators

variable {st : Store} {follow : Follow} {scope : Scope} {ms : List (String × Json)} {v : Json}

theorem partsPlace_onObject {t : Target} {parts : List Node}
    (h : PartsPlace st follow t parts) : PartsPlace st follow t (Keyword.onObject v parts) :=
  partsPlace_ite h (partsPlace_mistyped v _)

theorem partsPlace_onList {t : Target} {parts : List Node} (h : PartsPlace st follow t parts) :
    PartsPlace st follow t (Keyword.onList v parts) := by
  unfold Keyword.onList
  split
  · exact h
  · exact partsPlace_mistyped _ _

theorem partsPlace_plain {k : String} {c : Check} (hk : HasKeyword ms k)
    (hc : c.isPlain = true) : PartsPlace st follow ⟨scope, .obj ms⟩ [.check k c] :=
  partsPlace_singleton (Rule.places_check (Check.bears_of_isPlain hk hc))

theorem partsPlace_additionalParts (h : SubschemasPlace st follow scope ms)
    (hm : ("additionalProperties", v) ∈ ms) :
    PartsPlace st follow ⟨scope, .obj ms⟩ (Keyword.additionalParts (compileMembers scope ms) v
      (subtrees scope "additionalProperties" v)) := by
  have hk : HasKeyword ms "additionalProperties" := ⟨by decide, v, hm⟩
  unfold Keyword.additionalParts
  dsimp only
  split
  · refine partsPlace_ite ?_ (partsPlace_plain hk rfl)
    exact partsPlace_singleton (Rule.places_closed hk h.listedEntries)
  · exact partsPlace_singleton (Rule.places_others h.listedEntries (h.whole rfl hm))
  · exact partsPlace_singleton (Rule.places_others nofun (Rule.placesBehind_always _))
  · exact partsPlace_nil

/-- A reference by a text. -/
theorem partsPlace_referenceParts (h : SubschemasPlace st follow scope ms) {k : String}
    (hk : k = "$ref" ∨ k = "$dynamicRef") (hm : (k, v) ∈ ms) :
    PartsPlace st follow ⟨scope, .obj ms⟩ (Keyword.referenceParts scope k v) := by
  unfold Keyword.referenceParts
  split
  · next text =>
    refine partsPlace_singleton ?_
    intro _ w f hf
    exact (h.reference (.text hk hm)).under w f hf
  · exact partsPlace_mistyped _ _

theorem partsPlace_dependencyPart (h : SubschemasPlace st follow scope ms)
    {es : List (String × Json)} (hm : ("dependencies", .obj es) ∈ ms) {e : String × Json}
    (he : e ∈ es) : PartsPlace st follow ⟨scope, .obj ms⟩
      (Keyword.dependencyPart e.1 e.2 (compile scope e.2)) := by
  have hk : HasKeyword ms "dependencies" := ⟨by decide, _, hm⟩
  unfold Keyword.dependencyPart
  split
  · split
    · exact partsPlace_singleton (Rule.places_check ⟨hk, fun _ => by decide, nofun⟩)
    · next hnames => exact partsPlace_of_areChecks (Keyword.areChecks_of_nameList hnames) False.elim
  · refine partsPlace_singleton (Rule.places_dependent ?_)
    intro entry hentry name hname
    -- A member that selects the entry has its name, which is what stands on the steps.
    rw [List.mem_singleton.mp hentry] at hname ⊢
    rw [← beq_iff_eq.mp hname]
    exact h.subschema (.named rfl hm he)

theorem partsPlace_dependencyParts (h : SubschemasPlace st follow scope ms)
    (hm : ("dependencies", v) ∈ ms) :
    PartsPlace st follow ⟨scope, .obj ms⟩
      (Keyword.dependencyParts v (subtrees scope "dependencies" v)) := by
  rw [dependencyParts_subtrees]
  intro n hn
  obtain ⟨e, he, hne⟩ := List.mem_flatMap.mp hn
  cases v with
  | obj es => exact partsPlace_dependencyPart h hm he n hne
  | _ => exact nomatch he

theorem partsPlace_dependentSchemas (h : SubschemasPlace st follow scope ms)
    (hm : ("dependentSchemas", v) ∈ ms) :
    PartsPlace st follow ⟨scope, .obj ms⟩ [.dependent "dependentSchemas"
      (Keyword.nameEntries (subtrees scope "dependentSchemas" v))] := by
  refine partsPlace_singleton (Rule.places_dependent ?_)
  intro entry hentry name hname
  obtain ⟨n, hn, hplaces⟩ := h.nameEntries rfl hm entry hentry
  rw [hn] at hname
  rwa [← beq_iff_eq.mp hname]

theorem partsPlace_propertyNames (h : SubschemasPlace st follow scope ms)
    (hm : ("propertyNames", v) ∈ ms) :
    PartsPlace st follow ⟨scope, .obj ms⟩
      [.names (subtrees scope "propertyNames" v).whole] :=
  partsPlace_singleton (Rule.places_names ⟨by decide, v, hm⟩ (h.whole rfl hm))

theorem partsPlace_itemParts (h : SubschemasPlace st follow scope ms)
    (hm : ("items", v) ∈ ms) (ks : Keywords) :
    PartsPlace st follow ⟨scope, .obj ms⟩
      (Keyword.itemParts scope.draft ks v (subtrees scope "items" v)) := by
  have hcovers : ∀ limit, (Rule.covers limit).Places st ⟨scope, .obj ms⟩ := fun _ _ _ => nofun
  have hitems : ∀ start, ((Node.items "items" start (subtrees scope "items" v).whole).rule
      follow).Places st ⟨scope, .obj ms⟩ :=
    fun _ => Rule.places_items (h.whole rfl hm)
  have htuple : ((Node.tuple "items" (subtrees scope "items" v).items).rule follow).Places st
      ⟨scope, .obj ms⟩ :=
    Rule.places_tuple (h.item rfl hm)
  unfold Keyword.itemParts
  split
  · exact List.forall_mem_cons.mpr ⟨htuple, partsPlace_singleton (hcovers _)⟩
  · exact List.forall_mem_cons.mpr ⟨hitems _, partsPlace_singleton (hcovers _)⟩
  · exact List.forall_mem_cons.mpr ⟨hitems _, partsPlace_singleton (hcovers _)⟩
  · exact partsPlace_singleton (hcovers _)

theorem partsPlace_prefixItems (h : SubschemasPlace st follow scope ms)
    (hm : ("prefixItems", v) ∈ ms) (limit : Option Nat) :
    PartsPlace st follow ⟨scope, .obj ms⟩
      [.tuple "prefixItems" (subtrees scope "prefixItems" v).items, .covers limit] := by
  refine List.forall_mem_cons.mpr ⟨?_, partsPlace_singleton fun _ _ => nofun⟩
  exact Rule.places_tuple (h.item rfl hm)

theorem partsPlace_additionalItemParts (h : SubschemasPlace st follow scope ms)
    (hm : ("additionalItems", v) ∈ ms) (ks : Keywords) :
    PartsPlace st follow ⟨scope, .obj ms⟩
      (Keyword.additionalItemParts ks v (subtrees scope "additionalItems" v)) := by
  have hk : HasKeyword ms "additionalItems" := ⟨by decide, v, hm⟩
  unfold Keyword.additionalItemParts
  split
  · exact partsPlace_plain hk rfl
  · exact partsPlace_singleton (Rule.places_items (h.whole rfl hm))
  · exact partsPlace_nil
  · exact partsPlace_nil
  · exact partsPlace_nil
  · exact partsPlace_nil
  · exact partsPlace_plain hk rfl
  · exact partsPlace_mistyped _ _

/-- A limit for the number of matching items that is read stands beside `contains`. -/
theorem hasKeyword_of_matchCount? {k : String} (hk : k ∈ Keyword.known) {n : Nat}
    (h : Keyword.matchCount? scope.draft (compileMembers scope ms) k = .ok (some n)) :
    HasKeyword ms k := by
  unfold Keyword.matchCount? at h
  split at h
  · rw [value?_compileMembers] at h
    cases hv : lookup k ms with
    | none =>
      rw [hv] at h
      cases h
    | some w => exact ⟨hk, w, Json.mem_of_lookup hv⟩
  · cases h

/-- Where a number of matching items is wrong, `contains` says so, or the bound that is read. -/
theorem countKeyword_cases {count : Nat} {least most : Option Nat} {keyword : String}
    (h : Rule.countKeyword count least most = some keyword) :
    keyword = "contains" ∨ (keyword = "minContains" ∧ ∃ n, least = some n) ∨
      (keyword = "maxContains" ∧ ∃ n, most = some n) := by
  unfold Rule.countKeyword at h
  cases least with
  | none =>
    cases most with
    | none =>
      dsimp only at h
      split at h <;> cases h
      exact .inl rfl
    | some most =>
      dsimp only at h
      split at h <;> cases h
      exact .inr (.inr ⟨rfl, most, rfl⟩)
  | some least =>
    cases most with
    | none =>
      dsimp only at h
      split at h <;> cases h
      exact .inr (.inl ⟨rfl, least, rfl⟩)
    | some most =>
      dsimp only at h
      split at h
      · cases h
        exact .inr (.inr ⟨rfl, most, rfl⟩)
      · split at h <;> cases h
        exact .inr (.inl ⟨rfl, least, rfl⟩)

theorem partsPlace_containsParts (hm : ("contains", v) ∈ ms) (sub : Subtrees) :
    PartsPlace st follow ⟨scope, .obj ms⟩
      (Keyword.containsParts scope.draft (compileMembers scope ms) sub) := by
  unfold Keyword.containsParts
  split
  · next hleast =>
    exact partsPlace_of_areChecks (Keyword.areChecks_of_matchCount? hleast) False.elim
  · next hmost _ =>
    exact partsPlace_of_areChecks (Keyword.areChecks_of_matchCount? hmost) False.elim
  · next least most hleast hmost =>
    refine partsPlace_singleton (Rule.places_contains ?_)
    intro count keyword hcount
    rcases countKeyword_cases hcount with rfl | ⟨rfl, n, rfl⟩ | ⟨rfl, n, rfl⟩
    · exact ⟨by decide, v, hm⟩
    · exact hasKeyword_of_matchCount? (by decide) hleast
    · exact hasKeyword_of_matchCount? (by decide) hmost

/-- **Keywords.** What a member of a schema brings is placed if what subschemas and references find
is. -/
theorem partsPlace_memberParts (h : SubschemasPlace st follow scope ms) {k : String}
    (hm : (k, v) ∈ ms) :
    PartsPlace st follow ⟨scope, .obj ms⟩ (memberParts scope ms (k, v)) := by
  unfold memberParts Keyword.parts
  refine partsPlace_ite ?_ partsPlace_nil
  split
  · next parts hparts =>
    have hk : k ∈ Keyword.known := Keyword.known_of_checkParts hparts
    exact partsPlace_of_areChecks (Keyword.areChecks_checkParts hparts) (Keyword.Asks.bears hk hm)
  · -- One case for each keyword with subschemas, in the order in which these are listed there.
    dsimp only
    unfold Keyword.applicatorParts
    dsimp only
    split
    · exact partsPlace_referenceParts h (.inl rfl) hm
    · exact partsPlace_ite (partsPlace_referenceParts h (.inr rfl) hm) partsPlace_nil
    · refine partsPlace_ite (partsPlace_singleton ?_) partsPlace_nil
      exact fun _ w f hf => (h.reference (.recursive hm)).under w f hf
    · refine partsPlace_ite partsPlace_nil (partsPlace_onObject (partsPlace_singleton ?_))
      exact Rule.places_select (h.properties hm)
    · refine partsPlace_ite partsPlace_nil (partsPlace_onObject (partsPlace_singleton ?_))
      exact Rule.places_select (h.patternProperties hm)
    · exact partsPlace_additionalParts h hm
    · refine partsPlace_ite ?_ partsPlace_nil
      split
      · exact partsPlace_nil
      · exact partsPlace_plain ⟨by decide, _, hm⟩ rfl
      · exact partsPlace_propertyNames h hm
    · exact partsPlace_itemParts h hm _
    · exact partsPlace_ite (partsPlace_onList (partsPlace_prefixItems h hm _)) partsPlace_nil
    · exact partsPlace_ite partsPlace_nil (partsPlace_additionalItemParts h hm _)
    · exact partsPlace_ite (partsPlace_containsParts hm _) partsPlace_nil
    · exact partsPlace_onList (partsPlace_singleton (Rule.places_allOf (h.item rfl hm)))
    · exact partsPlace_onList (partsPlace_singleton (Rule.places_anyOf ⟨by decide, v, hm⟩))
    · exact partsPlace_onList (partsPlace_singleton (Rule.places_oneOf ⟨by decide, v, hm⟩))
    · exact partsPlace_singleton (Rule.places_negation ⟨by decide, v, hm⟩)
    · refine partsPlace_ite (partsPlace_singleton ?_) partsPlace_nil
      exact Rule.places_choice (h.branch rfl) (h.branch rfl)
    · exact partsPlace_onObject (partsPlace_dependencyParts h hm)
    · refine partsPlace_ite (partsPlace_onObject ?_) partsPlace_nil
      exact partsPlace_dependentSchemas h hm
    · refine partsPlace_ite (partsPlace_singleton ?_) partsPlace_nil
      exact Rule.places_unevaluatedMembers ⟨by decide, v, hm⟩
    · refine partsPlace_ite (partsPlace_singleton ?_) partsPlace_nil
      exact Rule.places_unevaluatedItems ⟨by decide, v, hm⟩
    · exact partsPlace_nil

end Applicators

/-! ### Schemas -/

section Schemas

variable {st : Store} {follow : Follow}

/-- Whether what references find is placed in what they mean. -/
def FollowPlaces (st : Store) (follow : Follow) : Prop :=
  ∀ r seen v, ∀ f ∈ (follow r).faults seen v, ∃ t, st.target r = .ok (some t) ∧ f.IsPlaced st t

/-- A subschema is smaller than the members of the schema around it. -/
theorem Holds.size_lt {ms : List (String × Json)} {steps : List Json.Step} {w : Json}
    (h : Holds ms steps w) : w.size < (Json.obj ms).size := by
  cases h with
  | whole _ hm => exact Json.size_lt_of_mem_members hm
  | item _ hm hx =>
    exact (Json.size_lt_of_mem_items (List.mem_of_getElem? hx)).trans
      (Json.size_lt_of_mem_members hm)
  | named _ hm hx =>
    exact (Json.size_lt_of_mem_members hx).trans (Json.size_lt_of_mem_members hm)

/-- **Schemas.** What a schema finds is placed in it if what references find is. -/
theorem Target.places_compile (hfollow : FollowPlaces st follow) (t : Target) :
    (t.compile.rule follow).Places st t := by
  -- By induction on the size of the schema: its subschemas are smaller, and references need no look
  -- at what they mean.
  induction hn : t.schema.size using Nat.strongRecOn generalizing t with
  | ind n ih =>
    subst hn
    obtain ⟨scope, schema⟩ := t
    cases schema with
    | bool b =>
      cases b with
      | true => exact Rule.places_always
      | false =>
        intro _ v f hf
        rw [List.mem_singleton.mp hf]
        exact .standing .whole trivial
    | obj ms =>
      have hparts : SubschemasPlace st follow scope ms := by
        constructor
        · intro steps w hw seen v f hf path
          rw [compile_eq] at hf
          cases hscope : scope.inside w with
          | error e =>
            rw [hscope] at hf
            exact nomatch hf
          | ok inner =>
            rw [hscope] at hf
            exact (ih _ hw.size_lt ⟨inner, w⟩ rfl seen v f hf).subschema hw hscope path
        · intro r hr seen v f hf path
          obtain ⟨t, ht, hplaced⟩ := hfollow r seen v f hf
          exact hplaced.reference hr ht path
      have hall : ∀ {parts : List Node}, PartsPlace st follow ⟨scope, .obj ms⟩ parts →
          ((Node.all parts).rule follow).Places st ⟨scope, .obj ms⟩ := by
        intro parts h
        rw [rule_all]
        exact Rule.places_inTurn (List.forall_mem_map.mpr h)
      -- In old drafts a reference is all that a schema with one asks.
      by_cases hhidden : (scope.draft.referenceHidesSiblings && (lookup "$ref" ms).isSome) = true
      · rw [Bool.and_eq_true] at hhidden
        obtain ⟨v, hv⟩ := Option.isSome_iff_exists.mp hhidden.2
        rw [compile_obj_hidden hhidden.1 hv]
        exact hall (partsPlace_referenceParts hparts (.inl rfl) (Json.mem_of_lookup hv))
      · rw [compile_obj (Bool.not_eq_true _ ▸ hhidden)]
        refine hall fun n hn => ?_
        obtain ⟨m, hm, hnm⟩ := List.mem_flatMap.mp hn
        exact partsPlace_memberParts hparts hm n hnm
    | _ => exact Rule.places_always

/-- **References.** What they find is placed in what they mean. -/
theorem Store.follow_places (st : Store) (n : Nat) : FollowPlaces st (st.follow n) := by
  -- By induction on how many references may follow one another.
  induction n with
  | zero => exact fun _ _ _ => nofun
  | succ n ih =>
    intro r _ v f hf
    change f ∈ Rule.apply _ v at hf
    split at hf
    · next t ht => exact ⟨t, ht, t.places_compile ih _ v f hf⟩
    · exact nomatch hf
    · exact nomatch hf

/-- **Compiled schemas.** All faults that they find are placed. -/
theorem Program.isPlaced_of_mem_faults {p : Program} {v : Json} {f : Fault}
    (h : f ∈ p.faults v) : f.IsPlaced p.store p.root :=
  p.root.places_compile (p.store.follow_places _) _ v f h

end Schemas

end DocCheck.Schema
