import DocCheck.Proofs.Json.Members
import DocCheck.Schema.Application

/-!
# Trees of schemas

The tree of an object schema is made member by member: what a keyword brings is found by looking it
up among the members, and each subschema is compiled in the scope inside it.

* `subtrees`, `compileMembers_eq_map`, `find?_compileMembers` — the compiled members of a schema;
* `compile_eq` — a subschema is what a reference to it would mean in the scope inside it;
* `compile_obj`, `compile_obj_hidden` — the parts of an object schema;
* `listedEntries_map_fst` — the members that a schema lists, by name or by pattern;
* `rules_eq_map`, `entryRules_eq_map` — the rules of lists of trees.
-/

namespace DocCheck.Schema

open Json (lookup)

/-! ### Members -/

/-- The compiled subschemas in the value of a keyword. -/
def subtrees (scope : Scope) (keyword : String) (value : Json) : Subtrees :=
  (compileMember scope (keyword, value)).2.2

theorem compileMembers_eq_map (scope : Scope) (ms : List (String × Json)) :
    compileMembers scope ms = ms.map fun m => (m.1, m.2, subtrees scope m.1 m.2) := by
  induction ms with
  | nil => rfl
  | cons m rest ih =>
    obtain ⟨k, v⟩ := m
    rw [compileMembers, ih]
    rfl

theorem compileItems_eq_map (scope : Scope) (xs : List Json) :
    compileItems scope xs = xs.map (compile scope) := by
  induction xs with
  | nil => rfl
  | cons x rest ih =>
    rw [compileItems, ih]
    rfl

theorem compileNamed_eq_map (scope : Scope) (ms : List (String × Json)) :
    compileNamed scope ms = ms.map fun m => (m.1, compile scope m.2) := by
  induction ms with
  | nil => rfl
  | cons m rest ih =>
    obtain ⟨name, v⟩ := m
    rw [compileNamed, ih]
    rfl

theorem subtrees_of_named {keyword : String} (h : Holding.ofKeyword keyword = .named)
    (scope : Scope) (value : Json) :
    subtrees scope keyword value = ⟨.always, [], compileMap scope value⟩ := by
  unfold subtrees compileMember
  rw [h]

theorem subtrees_of_direct {keyword : String} (h : Holding.ofKeyword keyword = .direct)
    (scope : Scope) (value : Json) :
    subtrees scope keyword value = ⟨compile scope value, compileList scope value, []⟩ := by
  unfold subtrees compileMember
  rw [h]

/-- A keyword among compiled members is found as it is among the members. -/
theorem find?_compileMembers (scope : Scope) (ms : List (String × Json)) (keyword : String) :
    Keyword.find? (compileMembers scope ms) keyword =
      (lookup keyword ms).map fun v => (v, subtrees scope keyword v) := by
  rw [compileMembers_eq_map]
  induction ms with
  | nil => rfl
  | cons m rest ih =>
    rw [List.map_cons, Keyword.find?, List.lookup_cons, Json.lookup_cons]
    by_cases hk : m.1 = keyword
    · subst hk
      rw [if_pos rfl, beq_self_eq_true]
      rfl
    · rw [if_neg hk, beq_eq_false_iff_ne.mpr (Ne.symm hk)]
      exact ih

theorem value?_compileMembers (scope : Scope) (ms : List (String × Json)) (keyword : String) :
    Keyword.value? (compileMembers scope ms) keyword = lookup keyword ms := by
  rw [Keyword.value?, find?_compileMembers]
  cases lookup keyword ms <;> rfl

/-! ### Subschemas -/

/-- **Subschemas.** The tree of a subschema is that of a reference to it in the scope inside it. -/
theorem compile_eq (scope : Scope) (schema : Json) :
    compile scope schema =
      match scope.inside schema with
      | .error e => .broken (.reference e)
      | .ok s => Target.compile ⟨s, schema⟩ := by
  cases schema with
  | obj ms => rfl
  | bool b => cases b <;> rfl
  | _ => rfl

/-! ### Object schemas -/

/-- The parts that one member of a schema brings. -/
def memberParts (scope : Scope) (ms : List (String × Json)) (m : String × Json) : List Node :=
  Keyword.parts scope ms (compileMembers scope ms) m.1 m.2 (subtrees scope m.1 m.2)

/-- Where no reference hides them, each member brings its parts. -/
theorem compile_obj {scope : Scope} {ms : List (String × Json)}
    (h : (scope.draft.referenceHidesSiblings && (lookup "$ref" ms).isSome) = false) :
    Target.compile ⟨scope, .obj ms⟩ = .all (ms.flatMap (memberParts scope ms)) := by
  have hparts : ((compileMembers scope ms).flatMap fun k =>
      Keyword.parts scope ms (compileMembers scope ms) k.1 k.2.1 k.2.2) =
      ms.flatMap (memberParts scope ms) := by
    conv_lhs => rw [compileMembers_eq_map scope ms, List.flatMap_map]
    rw [← compileMembers_eq_map]
    rfl
  change assemble scope ms (compileMembers scope ms) = _
  unfold assemble
  rw [find?_compileMembers]
  cases hd : scope.draft.referenceHidesSiblings with
  | false => exact congrArg Node.all hparts
  | true =>
    rw [hd, Bool.true_and, Option.isSome_eq_false_iff, Option.isNone_iff_eq_none] at h
    rw [h]
    exact congrArg Node.all hparts

/-- Where a reference hides everything beside it, it is the only part. -/
theorem compile_obj_hidden {scope : Scope} {ms : List (String × Json)} {v : Json}
    (hd : scope.draft.referenceHidesSiblings = true) (h : lookup "$ref" ms = some v) :
    Target.compile ⟨scope, .obj ms⟩ = .all (Keyword.referenceParts scope "$ref" v) := by
  change assemble scope ms (compileMembers scope ms) = _
  unfold assemble
  rw [find?_compileMembers, hd, h]
  rfl

/-! ### Listed members -/

/-- Which members an entry of `patternProperties` is for; a text that is no pattern, which makes a
schema unusable, stands for itself. -/
def patternSelector (source : String) : Selector :=
  match Pattern.read source with
  | some p => .pattern source p
  | none => .name source

/-- Which members a schema lists, by name or by pattern. -/
def listedSelectors (ms : List (String × Json)) : List Selector :=
  ((lookup "properties" ms).elim [] fun v => v.members.map fun m => .name m.1)
    ++ ((lookup "patternProperties" ms).elim [] fun v => v.members.map fun m => patternSelector m.1)

/-- Whether a schema lists the members with this name. -/
def isListed (ms : List (String × Json)) (name : String) : Bool :=
  (listedSelectors ms).any fun s => s.selects name

theorem compileMap_eq_map (scope : Scope) (value : Json) :
    compileMap scope value = value.members.map fun m => (m.1, compile scope m.2) := by
  cases value with
  | obj ms => exact compileNamed_eq_map scope ms
  | _ => rfl

theorem patternEntry_fst (source : String) (schema : Json) (node : Node) :
    (Keyword.patternEntry source schema node).1 = patternSelector source := by
  unfold Keyword.patternEntry patternSelector
  cases Pattern.read source <;> rfl

theorem nameEntries_subtrees (scope : Scope) {keyword : String}
    (h : Holding.ofKeyword keyword = .named) (value : Json) :
    Keyword.nameEntries (subtrees scope keyword value) =
      value.members.map fun m => (.name m.1, compile scope m.2) := by
  rw [subtrees_of_named h, Keyword.nameEntries, compileMap_eq_map, List.map_map]
  rfl

theorem zip_subtrees (scope : Scope) {keyword : String}
    (h : Holding.ofKeyword keyword = .named) (value : Json) :
    value.members.zip (subtrees scope keyword value).members =
      value.members.map fun m => (m, m.1, compile scope m.2) := by
  have hzip := List.zip_map' (f := id) (g := fun m : String × Json => (m.1, compile scope m.2))
    (l := value.members)
  rw [List.map_id] at hzip
  rw [subtrees_of_named h, compileMap_eq_map]
  exact hzip

theorem patternEntries_subtrees (scope : Scope) (value : Json) :
    Keyword.patternEntries value (subtrees scope "patternProperties" value) =
      value.members.map fun m => Keyword.patternEntry m.1 m.2 (compile scope m.2) := by
  rw [Keyword.patternEntries, zip_subtrees scope rfl, List.map_map]
  rfl

theorem dependencyParts_subtrees (scope : Scope) (value : Json) :
    Keyword.dependencyParts value (subtrees scope "dependencies" value) =
      value.members.flatMap fun m => Keyword.dependencyPart m.1 m.2 (compile scope m.2) := by
  rw [Keyword.dependencyParts, zip_subtrees scope rfl, List.flatMap_map]

/-- **Listed members.** The entries of a schema are for the members that it lists. -/
theorem listedEntries_map_fst (scope : Scope) (ms : List (String × Json)) :
    (Keyword.listedEntries (compileMembers scope ms)).map Prod.fst = listedSelectors ms := by
  unfold Keyword.listedEntries listedSelectors
  rw [find?_compileMembers, find?_compileMembers, List.map_append]
  congr 1
  · cases lookup "properties" ms with
    | none => rfl
    | some v =>
      rw [Option.map_some, Option.elim_some, Option.elim_some, nameEntries_subtrees scope rfl,
        List.map_map]
      rfl
  · cases lookup "patternProperties" ms with
    | none => rfl
    | some v =>
      simp only [Option.map_some, Option.elim_some, patternEntries_subtrees, List.map_map]
      exact List.map_congr_left fun m _ => patternEntry_fst m.1 m.2 _

theorem memberParts_properties (scope : Scope) (ms : List (String × Json)) (v : Json) :
    memberParts scope ms ("properties", v) =
      if scope.vocabularies.has scope.draft "properties" then
        if Keyword.closesMembers (compileMembers scope ms) then []
        else Keyword.onObject v [.select (Keyword.nameEntries (subtrees scope "properties" v))]
      else [] := rfl

/-- What is asked of the members whose names match patterns, unless the schema also speaks of all
others. -/
theorem memberParts_patternProperties (scope : Scope) (ms : List (String × Json)) (v : Json) :
    memberParts scope ms ("patternProperties", v) =
      if scope.vocabularies.has scope.draft "patternProperties" then
        if Keyword.closesMembers (compileMembers scope ms) then []
        else Keyword.onObject v
          [.select (Keyword.patternEntries v (subtrees scope "patternProperties" v))]
      else [] := rfl

/-- The part that closes a schema is there if its keywords are read. -/
theorem memberParts_closed {scope : Scope} {ms : List (String × Json)}
    (hv : scope.vocabularies.has scope.draft "additionalProperties")
    (hlisted : (lookup "properties" ms).isSome) :
    memberParts scope ms ("additionalProperties", .bool false) =
      [.closed (Keyword.listedEntries (compileMembers scope ms))] := by
  have hnone : Keyword.checkParts scope.draft ms "additionalProperties" (.bool false) = none := rfl
  unfold memberParts Keyword.parts
  rw [if_pos hv, hnone]
  change Keyword.additionalParts (compileMembers scope ms) (.bool false)
    (subtrees scope "additionalProperties" (.bool false)) = _
  unfold Keyword.additionalParts
  rw [value?_compileMembers, hlisted]
  rfl

theorem closed_mem_memberParts {scope : Scope} {ms : List (String × Json)}
    (hv : scope.vocabularies.has scope.draft "additionalProperties")
    (hlisted : (lookup "properties" ms).isSome)
    (hclosed : lookup "additionalProperties" ms = some (.bool false)) :
    Node.closed (Keyword.listedEntries (compileMembers scope ms)) ∈
      ms.flatMap (memberParts scope ms) := by
  refine List.mem_flatMap.mpr ⟨_, Json.mem_of_lookup hclosed, ?_⟩
  rw [memberParts_closed hv hlisted]
  exact List.mem_singleton_self _

/-! ### Rules -/

variable (follow : Follow)

theorem rules_eq_map (ns : List Node) : rules follow ns = ns.map (Node.rule follow) := by
  induction ns with
  | nil => rfl
  | cons n rest ih =>
    rw [rules, ih]
    rfl

theorem entryRules_eq_map (es : List (Selector × Node)) :
    entryRules follow es = es.map fun e => (e.1, e.2.rule follow) := by
  induction es with
  | nil => rfl
  | cons e rest ih =>
    obtain ⟨s, n⟩ := e
    rw [entryRules, ih]
    rfl

theorem rule_all (parts : List Node) :
    (Node.all parts).rule follow = .inTurn (parts.map (Node.rule follow)) := by
  rw [Node.rule, rules_eq_map]

end DocCheck.Schema
