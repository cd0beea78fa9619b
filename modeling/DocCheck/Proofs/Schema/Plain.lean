import DocCheck.Proofs.Schema.Checks
import DocCheck.Proofs.Schema.Tree
import DocCheck.Schema.Tighten
import Mathlib.Data.List.Perm.Basic

/-!
# Plain schemas

A plain schema is one whose subschemas are all applied, whatever a value is like: to the members
that it lists, to the items of an array, or to the value itself. Besides it has only keywords that
look at the value itself.

Which subschema of a plain schema is applied to what can be read off the schema and the value, with
no rules in between.

* `Plain` — the plain schemas;
* `Application`, `applications` — the subschemas of a plain schema and what they are applied to;
* `Application.unlisted` — the members that an object schema with `properties` does not list;
* `apply_obj` — a plain schema finds what its keywords find, each as `memberFaults_allOf`,
  `memberFaults_items`, `memberFaults_properties` and `memberFaults_of_plain` say.
-/

namespace DocCheck.Schema

open Json (lookup)

/-! ### The schemas -/

/-- The keywords that refer to other schemas. -/
def referenceKeywords : List String := ["$dynamicRef", "$recursiveRef", "$ref"]

/-- The keywords that say for which draft a schema is written and where it is found. -/
def headKeywords : List String := ["$id", "$schema", "id"]

/-- The keywords of plain schemas that hold subschemas. -/
def appliedKeywords : List String := ["allOf", "items", "properties"]

/-- Whether a keyword holds no subschemas and is no reference. Only the schema as a whole may say
for which draft it is written and where it is found. -/
def isPlainKeyword (isRoot : Bool) (keyword : String) : Bool :=
  Carrier.ofKeyword keyword == .data && Holding.ofKeyword keyword == .data
    && !referenceKeywords.contains keyword && (isRoot || !headKeywords.contains keyword)

/-- Plain schemas: besides keywords without subschemas only `properties`, `items` with a single
schema, and `allOf`. The flag says that this is the schema as a whole. -/
inductive Plain : Bool → Json → Prop where
  /-- A value without keywords. -/
  | value {isRoot : Bool} {schema : Json} (h : schema.isObject = false) : Plain isRoot schema
  /-- A schema with keywords. -/
  | keywords {isRoot : Bool} {ms : List (String × Json)}
    (known : ∀ m ∈ ms, isPlainKeyword isRoot m.1 ∨ m.1 ∈ appliedKeywords)
    (single : ∀ v, ("items", v) ∈ ms → v.isArray = false)
    (properties : ∀ listed, ("properties", .obj listed) ∈ ms → ∀ e ∈ listed, Plain false e.2)
    (items : ∀ v, ("items", v) ∈ ms → Plain false v)
    (allOf : ∀ xs, ("allOf", .arr xs) ∈ ms → ∀ x ∈ xs, Plain false x) :
    Plain isRoot (.obj ms)

/-- A schema with no subschemas at all is plain. -/
theorem Plain.of_known {isRoot : Bool} {ms : List (String × Json)}
    (h : ∀ m ∈ ms, isPlainKeyword isRoot m.1) : Plain isRoot (.obj ms) := by
  have hnone : ∀ {key : String} {w : Json}, isPlainKeyword isRoot key = false →
      (key, w) ∉ ms := by
    intro key w hkey hm
    rw [h (key, w) hm] at hkey
    exact Bool.noConfusion hkey
  refine .keywords (fun m hm => .inl (h m hm)) ?_ ?_ ?_ ?_ <;> intro w hm
  all_goals exact absurd hm (hnone (by cases isRoot <;> decide))

/-! ### Applications -/

/-- The application of an object schema to a value. -/
structure Application where
  /-- The steps to the value, from where the schema as a whole is applied. -/
  path : List Json.Step
  /-- The steps to the schema. -/
  keywords : List Json.Step
  /-- The members of the schema. -/
  members : List (String × Json)
  /-- The value. -/
  value : Json

namespace Application

/-- The application as seen from further up. -/
def below (path keywords : List Json.Step) (a : Application) : Application :=
  { a with path := path ++ a.path, keywords := keywords ++ a.keywords }

/-- The members of an object that an object schema with `properties` does not list. -/
def unlisted (a : Application) : List String :=
  match hasObjectType a.members, lookup "properties" a.members with
  | true, some (.obj listed) =>
    (a.value.members.map Prod.fst).filter fun name => (lookup name listed).isNone
  | _, _ => []

/-- The fault that a schema which is closed finds in the value. -/
def faults (a : Application) : List Fault :=
  if a.unlisted.isEmpty then []
  else [⟨a.path, a.keywords ++ [.key "additionalProperties"], a.value,
    .additionalProperties a.unlisted⟩]

/-- Faults of an application move with it. -/
theorem faults_below (path keywords : List Json.Step) (a : Application) :
    (a.below path keywords).faults = a.faults.map (Fault.below path keywords) := by
  have hunlisted : (a.below path keywords).unlisted = a.unlisted := rfl
  unfold faults
  rw [hunlisted]
  by_cases h : a.unlisted.isEmpty
  · rw [if_pos h, if_pos h]
    rfl
  · rw [if_neg h, if_neg h]
    change [Fault.mk (path ++ a.path) ((keywords ++ a.keywords) ++ _) _ _] = [Fault.mk _ _ _ _]
    rw [List.append_assoc]
    rfl

end Application

mutual

/-- The applications of a schema, and of the subschemas in it, to a value and to what is in it. -/
def applications (v : Json) : Json → List Application
  | .obj ms => ⟨[], [], ms, v⟩ :: keywordApplications v ms
  | _ => []
  termination_by structural j => j

/-- The applications of the subschemas of some keywords. -/
def keywordApplications (v : Json) : List (String × Json) → List Application
  | [] => []
  | m :: ms => memberApplications v m ++ keywordApplications v ms
  termination_by structural ms => ms

/-- The applications of the subschemas of a keyword. -/
def memberApplications (v : Json) : String × Json → List Application
  | (k, s) =>
    match k with
    | "allOf" => listApplications v s
    | "items" =>
      (Rule.itemsOf v).flatMap fun p =>
        (applications p.1 s).map (.below [.index p.2] [.key "items"])
    | "properties" => mapApplications v s
    | _ => []
  termination_by structural m => m

/-- The applications of schemas in an array, all of them to the value itself. -/
def listApplications (v : Json) : Json → List Application
  | .arr xs => partApplications v 0 xs
  | _ => []
  termination_by structural j => j

/-- The applications of schemas under names to the members that have these names. -/
def mapApplications (v : Json) : Json → List Application
  | .obj es => namedApplications v es
  | _ => []
  termination_by structural j => j

/-- The applications of a list of schemas, the first of which has this index. -/
def partApplications (v : Json) (i : Nat) : List Json → List Application
  | [] => []
  | x :: xs =>
    (applications v x).map (.below [] [.key "allOf", .index i]) ++ partApplications v (i + 1) xs
  termination_by structural xs => xs

/-- The applications of schemas under names. -/
def namedApplications (v : Json) : List (String × Json) → List Application
  | [] => []
  | e :: es => entryApplications v e ++ namedApplications v es
  termination_by structural es => es

/-- The applications of a schema under a name. -/
def entryApplications (v : Json) : String × Json → List Application
  | (name, s) =>
    (v.members.filter fun m => name == m.1).flatMap fun m =>
      (applications m.2 s).map (.below [.key m.1] [.key "properties", .key name])
  termination_by structural e => e

end

theorem keywordApplications_eq_flatMap (v : Json) (ms : List (String × Json)) :
    keywordApplications v ms = ms.flatMap (memberApplications v) := by
  induction ms with
  | nil => rfl
  | cons m rest ih => rw [keywordApplications, ih, List.flatMap_cons]

theorem namedApplications_eq_flatMap (v : Json) (es : List (String × Json)) :
    namedApplications v es = es.flatMap (entryApplications v) := by
  induction es with
  | nil => rfl
  | cons e rest ih => rw [namedApplications, ih, List.flatMap_cons]

theorem partApplications_eq_flatMap (v : Json) (i : Nat) (xs : List Json) :
    partApplications v i xs =
      (xs.zipIdx i).flatMap fun p =>
        (applications v p.1).map (.below [] [.key "allOf", .index p.2]) := by
  induction xs generalizing i with
  | nil => rfl
  | cons x rest ih => rw [partApplications, ih, List.zipIdx_cons, List.flatMap_cons]

/-! ### Keywords -/

section Keywords

variable {isRoot : Bool} {keyword : String}

theorem applicatorParts_of_plain (h : isPlainKeyword isRoot keyword) (scope : Scope)
    (ks : Keywords) (value : Json) (sub : Subtrees) :
    Keyword.applicatorParts scope ks keyword value sub = [] := by
  unfold Keyword.applicatorParts
  split
  case h_21 => rfl
  all_goals exact absurd h (by cases isRoot <;> decide)

/-- What a keyword without subschemas brings refers to nothing. -/
theorem areLeaves_of_plain (h : isPlainKeyword isRoot keyword) (scope : Scope)
    (ms : List (String × Json)) (value : Json) :
    Keyword.AreLeaves (memberParts scope ms (keyword, value)) := by
  unfold memberParts Keyword.parts
  split
  · split
    · next parts hparts => exact Keyword.checkParts_isLeaf hparts
    · rw [applicatorParts_of_plain h]
      exact Keyword.areLeaves_nil
  · exact Keyword.areLeaves_nil

/-- It depends only on what checks look at beside their own keywords. -/
theorem memberParts_of_plain (h : isPlainKeyword isRoot keyword) (scope : Scope)
    {ms ns : List (String × Json)}
    (hbeside : ∀ key ∈ Keyword.besideChecks, lookup key ns = lookup key ms) (value : Json) :
    memberParts scope ns (keyword, value) = memberParts scope ms (keyword, value) := by
  unfold memberParts Keyword.parts
  rw [Keyword.checkParts_congr scope.draft hbeside]
  cases Keyword.checkParts scope.draft ms keyword value with
  | some parts => rfl
  | none =>
    dsimp only
    rw [applicatorParts_of_plain h, applicatorParts_of_plain h]

end Keywords

/-! ### Members -/

namespace Rule

theorem onMember_cons (e : Selector × Rule) (entries : List (Selector × Rule))
    (m : String × Json) :
    onMember (e :: entries) m =
      (if e.1.selects m.1 then within (.key m.1) e.1.keywords (e.2.apply m.2) else [])
        ++ onMember entries m := by
  unfold onMember
  rw [List.filter_cons]
  by_cases h : e.1.selects m.1 = true
  · rw [if_pos h, if_pos h, List.flatMap_cons]
  · rw [if_neg h, if_neg h, List.nil_append]

/-- One entry, on the members that it is for. -/
theorem flatMap_onMember (e : Selector × Rule) (ms : List (String × Json)) :
    ms.flatMap (onMember [e]) =
      (ms.filter fun m => e.1.selects m.1).flatMap fun m =>
        within (.key m.1) e.1.keywords (e.2.apply m.2) := by
  induction ms with
  | nil => rfl
  | cons m rest ih =>
    rw [List.flatMap_cons, List.filter_cons, ih, onMember_cons]
    by_cases h : e.1.selects m.1 = true
    · rw [if_pos h, if_pos h, List.flatMap_cons]
      exact congrArg (· ++ _) (List.append_nil _)
    · rw [if_neg h, if_neg h]
      rfl

/-- Going through the members finds what going through the entries finds. -/
theorem flatMap_onMember_perm (entries : List (Selector × Rule)) (ms : List (String × Json)) :
    (ms.flatMap (onMember entries)).Perm (entries.flatMap fun e => ms.flatMap (onMember [e])) := by
  induction entries with
  | nil =>
    have hnil : ms.flatMap (onMember []) = [] := List.flatMap_eq_nil_iff.mpr fun m _ => rfl
    rw [hnil, List.flatMap_nil]
  | cons e rest ih =>
    have hsplit : onMember (e :: rest) = fun m => onMember [e] m ++ onMember rest m := by
      funext m
      rw [onMember_cons, onMember_cons]
      exact congrArg (· ++ _) (List.append_nil _).symm
    rw [hsplit, List.flatMap_cons]
    exact (List.flatMap_append_perm ms (onMember [e]) (onMember rest)).symm.trans
      (ih.append_left _)

/-- **Closing.** A closed schema finds what its entries find, and the members that no entry is
for. -/
theorem closed_perm (entries : List (Selector × Rule)) (seen seen' : Json → Coverage) (v : Json) :
    ((closed entries).faults seen v).Perm
      ((select entries).faults seen' v ++
        let unknown := v.members.filter fun m => !entries.any fun e => e.1.selects m.1
        demand unknown.isEmpty "additionalProperties" v
          (.additionalProperties (unknown.map Prod.fst))) :=
  (flatMap_onMember_perm entries v.members).append_right _

end Rule

/-! ### Faults -/

/-- The faults that the parts of one member of an object schema find. -/
def memberFaults (scope : Scope) (follow : Follow) (ms : List (String × Json)) (v : Json)
    (m : String × Json) : List Fault :=
  (memberParts scope ms m).flatMap fun n =>
    (n.rule follow).faults
      (Rule.joined ((ms.flatMap (memberParts scope ms)).map (Node.rule follow))) v

/-- The faults that a schema under a name finds in the members that have this name. -/
def entryFaults (scope : Scope) (follow : Follow) (v : Json) (e : String × Json) : List Fault :=
  (v.members.filter fun m => e.1 == m.1).flatMap fun m =>
    (((compile scope e.2).rule follow).apply m.2).map
      (Fault.below [.key m.1] [.key "properties", .key e.1])

section Faults

variable {scope : Scope} {follow : Follow} {ms : List (String × Json)} {v : Json}

/-- An object schema finds what its members find. -/
theorem apply_obj (h : lookup "$ref" ms = none) :
    ((Target.compile ⟨scope, .obj ms⟩).rule follow).apply v =
      ms.flatMap (memberFaults scope follow ms v) := by
  have hvisible : (scope.draft.referenceHidesSiblings && (lookup "$ref" ms).isSome) = false := by
    rw [h]
    exact Bool.and_false _
  rw [compile_obj hvisible, rule_all]
  change ((ms.flatMap (memberParts scope ms)).map (Node.rule follow)).flatMap _ = _
  rw [List.flatMap_map, List.flatMap_assoc]
  rfl

/-- A keyword without subschemas finds the same whatever references lead to. -/
theorem memberFaults_of_plain {isRoot : Bool} {keyword : String}
    (h : isPlainKeyword isRoot keyword) {ns : List (String × Json)}
    (hbeside : ∀ key ∈ Keyword.besideChecks, lookup key ns = lookup key ms)
    (follow' : Follow) (value : Json) :
    memberFaults scope follow' ns v (keyword, value) =
      memberFaults scope follow ms v (keyword, value) := by
  unfold memberFaults
  rw [memberParts_of_plain h scope hbeside value]
  refine List.flatMap_congr fun n hn => ?_
  have hleaf := areLeaves_of_plain h scope ms value n hn
  cases n with
  | check keyword c => rfl
  | broken e => rfl
  | _ => exact Bool.noConfusion hleaf

theorem select_faults (es : List (String × Json)) (seen : Json → Coverage) :
    (Rule.select (entryRules follow (es.map fun e => (.name e.1, compile scope e.2)))).faults seen
        v = es.flatMap (entryFaults scope follow v) := by
  rw [entryRules_eq_map, List.map_map]
  change (es.map _).flatMap _ = _
  rw [List.flatMap_map]
  exact List.flatMap_congr fun e _ => Rule.flatMap_onMember _ v.members

/-- Where the keywords that apply subschemas are not read they find nothing. -/
theorem memberFaults_of_not_read (hread : scope.vocabularies.has scope.draft "properties" = false)
    {keyword : String} (hk : keyword ∈ ["additionalProperties", "allOf", "items", "properties"])
    (s : Json) : memberFaults scope follow ms v (keyword, s) = [] := by
  have hhas : scope.vocabularies.has scope.draft keyword = false := by
    simp only [List.mem_cons, List.not_mem_nil, or_false] at hk
    rcases hk with rfl | rfl | rfl | rfl <;> exact hread
  unfold memberFaults memberParts Keyword.parts
  rw [hhas]
  rfl

/-- What is no list of schemas finds nothing. -/
theorem memberFaults_allOf_of_not_array {s : Json} (hs : s.isArray = false) :
    memberFaults scope follow ms v ("allOf", s) = [] := by
  have hparts : memberParts scope ms ("allOf", s) =
      if scope.vocabularies.has scope.draft "allOf" then Keyword.mistyped s [.array] else [] := by
    cases s with
    | arr xs => exact Bool.noConfusion hs
    | _ => rfl
  unfold memberFaults
  rw [hparts]
  split <;> rfl

theorem memberFaults_properties_of_not_object {s : Json} (hs : s.isObject = false) :
    memberFaults scope follow ms v ("properties", s) = [] := by
  unfold memberFaults
  rw [memberParts_properties, Keyword.onObject, hs]
  split
  · split <;> rfl
  · rfl

/-- Where a schema speaks of all members, another keyword speaks of the listed ones. -/
theorem memberFaults_properties_of_closes
    (hcloses : Keyword.closesMembers (compileMembers scope ms) = true) (s : Json) :
    memberFaults scope follow ms v ("properties", s) = [] := by
  rw [memberFaults, memberParts_properties, hcloses, if_pos rfl]
  split <;> rfl

variable (hread : scope.vocabularies.has scope.draft "properties")

include hread

/-- The schemas under `allOf` are all applied to the value itself. -/
theorem memberFaults_allOf (xs : List Json) :
    memberFaults scope follow ms v ("allOf", .arr xs) =
      xs.zipIdx.flatMap fun p =>
        (((compile scope p.1).rule follow).apply v).map
          (Fault.below [] [.key "allOf", .index p.2]) := by
  have hparts : memberParts scope ms ("allOf", .arr xs) =
      [.allOf (xs.map (compile scope))] := by
    have hhas : scope.vocabularies.has scope.draft "allOf" := hread
    change (if _ then [Node.allOf (compileItems scope xs)] else []) = _
    rw [if_pos hhas, compileItems_eq_map]
  unfold memberFaults
  rw [hparts, List.flatMap_singleton, Node.rule, rules_eq_map, List.map_map]
  change ((xs.map _).zipIdx).flatMap _ = _
  rw [List.zipIdx_map, List.flatMap_map]
  rfl

/-- A single schema under `items` is applied to each item. -/
theorem memberFaults_items (hfirst : lookup "prefixItems" ms = none) {s : Json}
    (hs : s.isArray = false) :
    memberFaults scope follow ms v ("items", s) =
      (Rule.itemsOf v).flatMap fun p =>
        (((compile scope s).rule follow).apply p.1).map
          (Fault.below [.index p.2] [.key "items"]) := by
  have hhas : scope.vocabularies.has scope.draft "items" := hread
  have hstart : Keyword.prefixLength (compileMembers scope ms) = 0 := by
    unfold Keyword.prefixLength
    rw [value?_compileMembers, hfirst]
  have hparts : memberParts scope ms ("items", s) =
      Keyword.itemParts scope.draft (compileMembers scope ms) s
        (subtrees scope "items" s) := by
    change (if _ then _ else []) = _
    rw [if_pos hhas]
    rfl
  have hsub : (subtrees scope "items" s).whole = compile scope s := by
    rw [subtrees_of_direct rfl]
  unfold memberFaults
  rw [hparts]
  -- A value that is no schema is no object and no truth value, and finds nothing.
  have hnone : compile scope s = noSchema s → [] = (Rule.itemsOf v).flatMap fun p =>
      (((compile scope s).rule follow).apply p.1).map
        (Fault.below [.index p.2] [.key "items"]) := by
    intro h
    rw [h, eq_comm, List.flatMap_eq_nil_iff]
    intro p _
    rfl
  cases s with
  | arr xs => exact Bool.noConfusion hs
  | null | num n | str t => exact hnone rfl
  | bool b | obj es =>
    unfold Keyword.itemParts
    rw [hstart, hsub, List.flatMap_cons]
    exact List.append_nil _

theorem memberFaults_properties
    (hopen : Keyword.closesMembers (compileMembers scope ms) = false)
    (es : List (String × Json)) :
    memberFaults scope follow ms v ("properties", .obj es) =
      es.flatMap (entryFaults scope follow v) := by
  rw [memberFaults, memberParts_properties, if_pos hread, hopen, if_neg Bool.false_ne_true,
    nameEntries_subtrees scope rfl]
  exact (List.append_nil _).trans (select_faults es _)

end Faults

/-! ### Scopes -/

namespace Plain

variable {isRoot : Bool} {ms : List (String × Json)}

/-- A plain schema has no other keywords. -/
theorem lookup_eq_none (h : Plain isRoot (.obj ms)) {key : String}
    (hplain : isPlainKeyword isRoot key = false)
    (happlied : key ∉ appliedKeywords) : lookup key ms = none := by
  cases h with
  | value h => exact Bool.noConfusion h
  | keywords known =>
    rw [Json.lookup_eq_none_iff]
    rintro m hm rfl
    rcases known m hm with hk | hk
    · rw [hplain] at hk
      exact Bool.noConfusion hk
    · exact happlied hk

/-- Inside a plain subschema the scope is the one around it. -/
theorem inside_eq {schema : Json} (h : Plain false schema) (scope : Scope) :
    scope.inside schema = .ok scope := by
  have hnone : ∀ key ∈ headKeywords, schema.get? key = none := by
    intro key hkey
    cases schema with
    | obj ms =>
      simp only [headKeywords, List.mem_cons, List.not_mem_nil, or_false] at hkey
      rcases hkey with rfl | rfl | rfl <;> exact h.lookup_eq_none (by decide) (by decide)
    | _ => rfl
  have hdraft : scope.draft.detect schema = .ok scope.draft := by
    unfold Draft.detect
    rw [hnone "$schema" (by simp [headKeywords])]
    rfl
  have hid : scope.draft.id? schema = none := by
    have hkey : scope.draft.idKeyword ∈ headKeywords := by
      unfold Draft.idKeyword headKeywords
      split <;> simp
    unfold Draft.id?
    rw [hnone _ hkey]
    rfl
  have hresource :
      Resource.id? ⟨(scope.draft.detect schema).toOption.getD .latest, schema⟩ = none := by
    rw [hdraft]
    exact hid
  unfold Scope.inside Scope.enter
  rw [hresource, hdraft]
  rfl

theorem compile_eq {schema : Json} (h : Plain false schema) (scope : Scope) :
    compile scope schema = Target.compile ⟨scope, schema⟩ := by
  rw [Schema.compile_eq, h.inside_eq]

end Plain

end DocCheck.Schema
