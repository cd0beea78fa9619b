import DocCheck.Proofs.Schema.Plain
import DocCheck.Proofs.Tighten.Reached
import Mathlib.Data.List.Nodup

/-!
# What tightening adds

A plain schema has no keyword that turns the faults of a subschema into anything else. So what a
tight validator finds by it is what the loose one finds, and one violation more for each member that
a subschema is applied to without listing it.

* `Adds` — tightening a subschema adds the faults of its applications;
* `memberFaults_perm`, `closed_memberFaults_perm` — what it adds to a single keyword;
* `Plain.apply_tighten_perm` — what it adds to a plain schema, by induction on the schema;
* `violations_tight_perm` — what tight validators find beyond loose ones;
* `violations_perm_of_detect` — the same for schemas that name one of the drafts, or none.
-/

namespace DocCheck.Schema

open Json (lookup)

theorem flatMap_perm_append {α β : Type} {l : List α} {f g h : α → List β}
    (hperm : ∀ a ∈ l, (f a).Perm (g a ++ h a)) :
    (l.flatMap f).Perm (l.flatMap g ++ l.flatMap h) :=
  (List.Perm.flatMap_left l hperm).trans (List.flatMap_append_perm l g h).symm

theorem perm_regroup {α : Type} [DecidableEq α] (a b c d e : List α) :
    ((a ++ b ++ c) ++ (d ++ e)).Perm ((a ++ d) ++ (c ++ (b ++ e))) := by
  rw [List.perm_iff_count]
  intro x
  simp only [List.count_append]
  omega

/-- Tightening a subschema adds the faults of its applications to what it finds. -/
def Adds (scope : Scope) (fu fw : Follow) (s : Json) : Prop :=
  ∀ v, (((compile scope (tighten s)).rule fu).apply v).Perm
    (((compile scope s).rule fw).apply v ++ (applications v s).flatMap Application.faults)

section Keywords

variable {scope : Scope} {fu fw : Follow}

/-- Seen from further up, they are the faults of the applications as seen from there. -/
theorem Adds.below {s : Json} (h : Adds scope fu fw s) (v : Json) (path keywords : List Json.Step) :
    ((((compile scope (tighten s)).rule fu).apply v).map (Fault.below path keywords)).Perm
      ((((compile scope s).rule fw).apply v).map (Fault.below path keywords) ++
        ((applications v s).map (.below path keywords)).flatMap Application.faults) := by
  have hmoved : ((applications v s).map (.below path keywords)).flatMap Application.faults =
      ((applications v s).flatMap Application.faults).map (Fault.below path keywords) := by
    rw [List.flatMap_map, List.map_flatMap]
    exact List.flatMap_congr fun a _ => a.faults_below path keywords
  rw [hmoved, ← List.map_append]
  exact (h v).map _

/-- Schemas under names, each tightened. -/
theorem entryFaults_perm {es : List (String × Json)} (hadds : ∀ e ∈ es, Adds scope fu fw e.2)
    (v : Json) :
    ((es.map fun e => (e.1, tighten e.2)).flatMap (entryFaults scope fu v)).Perm
      (es.flatMap (entryFaults scope fw v) ++
        (namedApplications v es).flatMap Application.faults) := by
  rw [List.flatMap_map, namedApplications_eq_flatMap, List.flatMap_assoc]
  refine flatMap_perm_append fun e he => ?_
  obtain ⟨name, s⟩ := e
  unfold entryApplications
  rw [List.flatMap_assoc]
  exact flatMap_perm_append fun m _ => (hadds (name, s) he).below m.2 _ _

variable {isRoot : Bool} {ms : List (String × Json)} {v : Json}

/-- Tightening adds the faults of its applications to each subschema of a plain schema. -/
structure SubschemasAdd (scope : Scope) (fu fw : Follow) (ms : List (String × Json)) : Prop where
  /-- The schemas under `properties`. -/
  properties : ∀ listed, ("properties", .obj listed) ∈ ms → ∀ e ∈ listed, Adds scope fu fw e.2
  /-- The schema under `items`. -/
  items : ∀ s, ("items", s) ∈ ms → Adds scope fu fw s
  /-- The schemas under `allOf`. -/
  allOf : ∀ xs, ("allOf", .arr xs) ∈ ms → ∀ x ∈ xs, Adds scope fu fw x

/-- The members of a tightened schema. -/
abbrev tightened (ms : List (String × Json)) : List (String × Json) :=
  close ms (tightenMembers ms)

/-- Tightening leaves alone what checks look at beside their own keywords. -/
theorem lookup_tightened_beside (ms : List (String × Json)) {key : String}
    (h : key ∈ Keyword.besideChecks) : lookup key (tightened ms) = lookup key ms := by
  have hsame : ∀ k ∈ Keyword.besideChecks, k ≠ "additionalProperties" ∧
      ∀ w, tightenValue k w = w := by
    simp only [Keyword.besideChecks, List.mem_cons, List.not_mem_nil, or_false]
    rintro k (rfl | rfl | rfl | rfl) <;> exact ⟨by decide, fun w => rfl⟩
  obtain ⟨hne, hvalue⟩ := hsame key h
  rw [lookup_close_of_ne hne, funext hvalue, Option.map_id']

theorem tightenValue_of_plain {keyword : String} (h : isPlainKeyword isRoot keyword) (w : Json) :
    tightenValue keyword w = w := by
  simp only [isPlainKeyword, Bool.and_eq_true, beq_iff_eq] at h
  rw [Role.tightenValue_eq_used, Role.ofMember, h.1.1.1]
  rfl

/-- What an open schema does not list is what no entry of the closed one is for. -/
theorem unlisted_of_isOpen (hopen : isOpen ms) {listed : List (String × Json)}
    (hlisted : lookup "properties" ms = some (.obj listed)) :
    (Application.mk [] [] ms v).unlisted =
      (v.members.filter fun m => (lookup m.1 listed).isNone).map Prod.fst := by
  have htype : hasObjectType ms = true := by
    simp only [isOpen, Bool.and_eq_true] at hopen
    exact hopen.1.1
  unfold Application.unlisted
  rw [htype, hlisted]
  exact List.filter_map

/-- A schema that is not open and says nothing about all members has nothing to add. -/
theorem faults_of_not_open (hnone : lookup "additionalProperties" ms = none)
    (hopen : isOpen ms = false) : (Application.mk [] [] ms v).faults = [] := by
  have hunlisted : (Application.mk [] [] ms v).unlisted = [] := by
    unfold Application.unlisted
    split
    · next listed htype hlisted =>
      change hasObjectType ms = true at htype
      change lookup "properties" ms = _ at hlisted
      unfold isOpen at hopen
      rw [htype, hlisted, hnone] at hopen
      exact Bool.noConfusion hopen
    · rfl
  unfold Application.faults
  rw [hunlisted]
  rfl

theorem closesMembers_of_plain (h : Plain isRoot (.obj ms)) :
    Keyword.closesMembers (compileMembers scope ms) = false := by
  have hnone : lookup "additionalProperties" ms = none :=
    h.lookup_eq_none (by cases isRoot <;> decide) (by decide)
  unfold Keyword.closesMembers
  rw [value?_compileMembers, hnone]

variable (h : Plain isRoot (.obj ms))
  (hread : scope.vocabularies.has scope.draft "properties") (hadd : SubschemasAdd scope fu fw ms)

/-- A tightened schema speaks of all members only if it did so, or has been closed. -/
theorem closesMembers_tightened (h : Plain isRoot (.obj ms)) (hopen : isOpen ms = false) :
    Keyword.closesMembers (compileMembers scope (tightened ms)) = false := by
  have hnone : lookup "additionalProperties" ms = none :=
    h.lookup_eq_none (by cases isRoot <;> decide) (by decide)
  unfold Keyword.closesMembers
  rw [value?_compileMembers, tightened, close, hopen, if_neg Bool.false_ne_true,
    tightenMembers_eq_map, Json.lookup_map, hnone]
  rfl

include hread hadd

theorem memberFaults_allOf_perm {s : Json} (hm : ("allOf", s) ∈ ms) :
    (memberFaults scope fu (tightened ms) v ("allOf", tightenValue "allOf" s)).Perm
      (memberFaults scope fw ms v ("allOf", s) ++
        (listApplications v s).flatMap Application.faults) := by
  cases s with
  | arr xs =>
    have hvalue : tightenValue "allOf" (.arr xs) = .arr (xs.map tighten) := by
      rw [← tightenItems_eq_map]
      rfl
    rw [hvalue, memberFaults_allOf hread, memberFaults_allOf hread, List.zipIdx_map,
      List.flatMap_map, listApplications, partApplications_eq_flatMap, List.flatMap_assoc]
    refine flatMap_perm_append fun p hp => ?_
    exact (hadd.allOf xs hm p.1 (List.fst_mem_of_mem_zipIdx hp)).below v _ _
  | _ =>
    rw [memberFaults_allOf_of_not_array rfl, memberFaults_allOf_of_not_array rfl]
    exact List.Perm.refl _

theorem memberFaults_properties_perm (h : Plain isRoot (.obj ms)) (hopen : isOpen ms = false)
    {s : Json} (hm : ("properties", s) ∈ ms) :
    (memberFaults scope fu (tightened ms) v ("properties", tightenValue "properties" s)).Perm
      (memberFaults scope fw ms v ("properties", s) ++
        (mapApplications v s).flatMap Application.faults) := by
  cases s with
  | obj es =>
    have hvalue : tightenValue "properties" (.obj es) =
        .obj (es.map fun e => (e.1, tighten e.2)) := by
      rw [← tightenNamed_eq_map]
      rfl
    rw [hvalue, memberFaults_properties hread (closesMembers_tightened h hopen),
      memberFaults_properties hread (closesMembers_of_plain h)]
    exact entryFaults_perm (hadd.properties es hm) v
  | _ =>
    rw [memberFaults_properties_of_not_object rfl, memberFaults_properties_of_not_object rfl]
    exact List.Perm.refl _

theorem memberFaults_items_perm (h : Plain isRoot (.obj ms)) {s : Json}
    (hm : ("items", s) ∈ ms) :
    (memberFaults scope fu (tightened ms) v ("items", tightenValue "items" s)).Perm
      (memberFaults scope fw ms v ("items", s) ++
        (memberApplications v ("items", s)).flatMap Application.faults) := by
  have hsingle : s.isArray = false := by
    cases h with
    | value h => exact Bool.noConfusion h
    | keywords _ single => exact single s hm
  have hvalue : tightenValue "items" s = tighten s := by
    change (if s.isArray then _ else _) = _
    rw [hsingle, if_neg Bool.false_ne_true]
  have hnone : lookup "prefixItems" ms = none :=
    h.lookup_eq_none (by cases isRoot <;> decide) (by decide)
  have hnone' : lookup "prefixItems" (tightened ms) = none := by
    rw [lookup_close_of_ne (by decide), hnone]
    rfl
  have htight : (tighten s).isArray = false := by
    cases s with
    | arr xs => exact hsingle
    | _ => rfl
  rw [hvalue, memberFaults_items hread hnone' htight, memberFaults_items hread hnone hsingle]
  change List.Perm _ (_ ++ ((Rule.itemsOf v).flatMap _).flatMap _)
  rw [List.flatMap_assoc]
  exact flatMap_perm_append fun p _ => (hadd.items s hm).below p.1 _ _

include h

/-- **Keywords.** Tightening adds to what a keyword finds the faults of the applications below it,
as long as the keyword goes on having its say. -/
theorem memberFaults_perm {m : String × Json} (hm : m ∈ ms)
    (hopen : m.1 = "properties" → isOpen ms = false) :
    (memberFaults scope fu (tightened ms) v (m.1, tightenValue m.1 m.2)).Perm
      (memberFaults scope fw ms v m ++ (memberApplications v m).flatMap Application.faults) := by
  obtain ⟨k, s⟩ := m
  have hkind : isPlainKeyword isRoot k ∨ k ∈ appliedKeywords := by
    cases h with
    | value h => exact Bool.noConfusion h
    | keywords known => exact known (k, s) hm
  rcases hkind with hplain | happlied
  · -- The keyword finds what it found, and there are no applications below it.
    have hnone : memberApplications v (k, s) = [] := by
      unfold memberApplications
      split
      case h_4 => rfl
      all_goals exact absurd hplain (by cases isRoot <;> decide)
    rw [hnone, List.flatMap_nil, List.append_nil, tightenValue_of_plain hplain]
    rw [memberFaults_of_plain hplain (fun key hkey => lookup_tightened_beside ms hkey)]
  · simp only [appliedKeywords, List.mem_cons, List.not_mem_nil, or_false] at happlied
    rcases happlied with rfl | rfl | rfl
    · exact memberFaults_allOf_perm hread hadd hm
    · exact memberFaults_items_perm hread hadd h hm
    · exact memberFaults_properties_perm hread hadd h (hopen rfl) hm

/-- **Closing.** The keyword that closes an open schema finds what the listed members find, the
faults of the applications below them, and those of the schema itself. -/
theorem closed_memberFaults_perm (hopen : isOpen ms) {listed : List (String × Json)}
    (hlisted : lookup "properties" ms = some (.obj listed)) :
    (memberFaults scope fu (tightened ms) v ("additionalProperties", .bool false)).Perm
      ((memberFaults scope fw ms v ("properties", .obj listed) ++
          (memberApplications v ("properties", .obj listed)).flatMap Application.faults) ++
        (Application.mk [] [] ms v).faults) := by
  have hproperties : lookup "properties" (tightened ms) =
      some (.obj (listed.map fun e => (e.1, tighten e.2))) := by
    rw [lookup_close_of_ne (by decide), hlisted, ← tightenNamed_eq_map]
    rfl
  have hpatterns : lookup "patternProperties" (tightened ms) = none := by
    rw [lookup_close_of_ne (by decide),
      h.lookup_eq_none (by cases isRoot <;> decide) (by decide)]
    rfl
  have hentries : Keyword.listedEntries (compileMembers scope (tightened ms)) =
      (listed.map fun e => (e.1, tighten e.2)).map fun e => (.name e.1, compile scope e.2) := by
    unfold Keyword.listedEntries
    rw [find?_compileMembers, find?_compileMembers, hproperties, hpatterns, Option.map_some,
      Option.elim_some, nameEntries_subtrees scope rfl]
    exact List.append_nil _
  -- No entry is for exactly the members that the schema does not list.
  have hunknown : (v.members.filter fun m => !(entryRules fu
      ((listed.map fun e => (e.1, tighten e.2)).map fun e => (.name e.1, compile scope e.2))).any
        fun e => e.1.selects m.1) =
      v.members.filter fun m => (lookup m.1 listed).isNone := by
    refine List.filter_congr fun m _ => ?_
    rw [entryRules_eq_map, List.map_map, List.map_map, List.any_map, Json.isNone_lookup]
    rfl
  have hread' : scope.vocabularies.has scope.draft "additionalProperties" := hread
  have hsome : (lookup "properties" (tightened ms)).isSome := by
    rw [hproperties]
    rfl
  rw [memberFaults_properties hread (closesMembers_of_plain h)]
  unfold memberFaults
  rw [memberParts_closed hread' hsome, hentries, List.flatMap_singleton, Node.rule]
  refine (Rule.closed_perm _ _ (fun _ => .nothing) v).trans ?_
  rw [select_faults, hunknown]
  refine List.Perm.append ?_ (List.Perm.of_eq ?_)
  · exact entryFaults_perm (hadd.properties listed (Json.mem_of_lookup hlisted)) v
  · rw [Application.faults, unlisted_of_isOpen hopen hlisted, List.isEmpty_map]
    rfl

/-- **Object schemas.** Tightening adds the faults of all applications to what a schema finds. -/
theorem tightened_perm (hs : (Json.obj ms).SortedKeys) :
    ((tightened ms).flatMap (memberFaults scope fu (tightened ms) v)).Perm
      (ms.flatMap (memberFaults scope fw ms v) ++
        (applications v (.obj ms)).flatMap Application.faults) := by
  rw [applications, keywordApplications_eq_flatMap, List.flatMap_cons, List.flatMap_assoc]
  by_cases hopen : isOpen ms = true
  · obtain ⟨listed, hlisted⟩ := exists_listed_of_isOpen hopen
    -- All keywords but the one that lists members go on having their say.
    have hsplit : ms.Perm
        (("properties", .obj listed) :: ms.erase ("properties", .obj listed)) :=
      List.perm_cons_erase (Json.mem_of_lookup hlisted)
    have hother : ∀ m ∈ ms.erase ("properties", .obj listed),
        m ∈ ms ∧ m.1 ≠ "properties" := by
      intro m hm
      have hmem : m ∈ ms := List.mem_of_mem_erase hm
      refine ⟨hmem, fun hk => ?_⟩
      have hv : lookup "properties" ms = some m.2 :=
        (Json.lookup_eq_some_iff_mem hs.nodup).mpr (hk ▸ hmem)
      rw [hlisted, Option.some.injEq] at hv
      have hm' : m = ("properties", .obj listed) := Prod.ext hk hv.symm
      rw [hm'] at hm
      exact (List.Nodup.of_map _ hs.nodup).not_mem_erase hm
    have hcloses : Keyword.closesMembers (compileMembers scope (tightened ms)) = true := by
      unfold Keyword.closesMembers
      rw [value?_compileMembers, lookup_close_of_isOpen hopen]
    have hmembers : (tightened ms).Perm (("additionalProperties", .bool false) ::
        ms.map fun m => (m.1, tightenValue m.1 m.2)) := by
      have hclose := close_perm ms
      rwa [if_pos hopen] at hclose
    have hgroup : ∀ f : String × Json → List Fault, (ms.flatMap f).Perm
        (f ("properties", .obj listed) ++
          (ms.erase ("properties", .obj listed)).flatMap f) := by
      intro f
      exact hsplit.flatMap_right f
    have hclosed := closed_memberFaults_perm (v := v) h hread hadd hopen hlisted
    have hothers := flatMap_perm_append fun m hm => memberFaults_perm (v := v) h hread hadd
      (hother m hm).1 fun hk => absurd hk (hother m hm).2
    refine (hmembers.flatMap_right _).trans ?_
    rw [List.flatMap_cons, List.flatMap_map]
    refine ((hgroup _).append_left _).trans ?_
    rw [memberFaults_properties_of_closes hcloses, List.nil_append]
    refine (hclosed.append hothers).trans ((perm_regroup _ _ _ _ _).trans ?_)
    have happlied := hgroup fun m => (memberApplications v m).flatMap Application.faults
    exact ((hgroup (memberFaults scope fw ms v)).append (happlied.append_left _)).symm
  · rw [Bool.not_eq_true] at hopen
    have hnone : lookup "additionalProperties" ms = none :=
      h.lookup_eq_none (by cases isRoot <;> decide) (by decide)
    have hmembers : ∀ f : String × Json → List Fault,
        (tightened ms).flatMap f = ms.flatMap fun m => f (m.1, tightenValue m.1 m.2) := by
      intro f
      rw [tightened, close, hopen, if_neg Bool.false_ne_true, tightenMembers_eq_map,
        List.flatMap_map]
    rw [faults_of_not_open hnone hopen, List.nil_append, hmembers]
    exact flatMap_perm_append fun m hm => memberFaults_perm h hread hadd hm fun _ => hopen

end Keywords

/-! ### Plain schemas -/

theorem Plain.lookup_ref {isRoot : Bool} {ms : List (String × Json)}
    (h : Plain isRoot (.obj ms)) : lookup "$ref" ms = none :=
  h.lookup_eq_none (by cases isRoot <;> decide) (by decide)

theorem Plain.lookup_ref_tightened {isRoot : Bool} {ms : List (String × Json)}
    (h : Plain isRoot (.obj ms)) : lookup "$ref" (tightened ms) = none := by
  rw [lookup_close_of_ne (by decide), h.lookup_ref]
  rfl

/-- **Plain schemas.** By induction on the schema: tightening adds the faults of all applications,
whatever references lead to. -/
theorem Plain.apply_tighten_perm {isRoot : Bool} {schema : Json} (h : Plain isRoot schema)
    (hs : schema.SortedKeys) {scope : Scope}
    (hread : scope.vocabularies.has scope.draft "properties") (fu fw : Follow) (v : Json) :
    (((Target.compile ⟨scope, tighten schema⟩).rule fu).apply v).Perm
      (((Target.compile ⟨scope, schema⟩).rule fw).apply v ++
        (applications v schema).flatMap Application.faults) := by
  induction h generalizing v with
  | @value isRoot schema hvalue =>
    cases schema with
    | obj ms => exact Bool.noConfusion hvalue
    | bool b => cases b <;> exact List.Perm.refl _
    | _ => exact List.Perm.refl _
  | @keywords isRoot ms known single properties items allOf ihproperties ihitems ihallOf =>
    have hplain : Plain isRoot (.obj ms) := .keywords known single properties items allOf
    -- A subschema is read in the scope around it, as it was written and tightened.
    have hadds : ∀ {s : Json}, s.SortedKeys → Plain false s →
        (∀ v, (((Target.compile ⟨scope, tighten s⟩).rule fu).apply v).Perm
          (((Target.compile ⟨scope, s⟩).rule fw).apply v ++
            (applications v s).flatMap Application.faults)) →
        Adds scope fu fw s := by
      intro s hsorted hsub ih v
      have htight : compile scope (tighten s) = Target.compile ⟨scope, tighten s⟩ := by
        rw [Schema.compile_eq, inside_twin scope (twin_tighten hsorted), hsub.inside_eq]
      rw [htight, hsub.compile_eq]
      exact ih v
    have hadd : SubschemasAdd scope fu fw ms := by
      refine ⟨fun listed hm e he => ?_, fun s hm => ?_, fun xs hm x hx => ?_⟩
      · have hsorted := (hs.member hm).member he
        exact hadds hsorted (properties listed hm e he) (ihproperties listed hm e he hsorted)
      · exact hadds (hs.member hm) (items s hm) (ihitems s hm (hs.member hm))
      · have hsorted := (hs.member hm).item hx
        exact hadds hsorted (allOf xs hm x hx) (ihallOf xs hm x hx hsorted)
    rw [tighten_obj, apply_obj hplain.lookup_ref_tightened, apply_obj hplain.lookup_ref]
    exact tightened_perm hplain hread hadd hs

/-- Where the keywords that apply subschemas are not read, tightening adds nothing. -/
theorem Plain.apply_tighten_of_not_read {isRoot : Bool} {schema : Json} (h : Plain isRoot schema)
    {scope : Scope} (hread : scope.vocabularies.has scope.draft "properties" = false)
    (fu fw : Follow) (v : Json) :
    ((Target.compile ⟨scope, tighten schema⟩).rule fu).apply v =
      ((Target.compile ⟨scope, schema⟩).rule fw).apply v := by
  cases h with
  | value hvalue =>
    cases schema with
    | obj ms => exact Bool.noConfusion hvalue
    | bool b => cases b <;> rfl
    | _ => rfl
  | @keywords _ ms known single properties items allOf =>
    have hplain : Plain isRoot (.obj ms) := .keywords known single properties items allOf
    rw [tighten_obj, apply_obj hplain.lookup_ref_tightened, apply_obj hplain.lookup_ref]
    have hclose : (tightened ms).flatMap (memberFaults scope fu (tightened ms) v) =
        ms.flatMap fun m => memberFaults scope fu (tightened ms) v (m.1, tightenValue m.1 m.2) := by
      generalize hf : memberFaults scope fu (tightened ms) v = f
      have hnil : f ("additionalProperties", .bool false) = [] := by
        rw [← hf]
        exact memberFaults_of_not_read hread (by simp) _
      unfold tightened close
      split
      · next hopen =>
        have hnone : lookup "additionalProperties" (tightenMembers ms) = none := by
          rw [tightenMembers_eq_map, Json.lookup_map, lookup_additionalProperties_of_isOpen hopen]
          rfl
        rw [Json.flatMap_insert hnone hnil, tightenMembers_eq_map, List.flatMap_map]
      · rw [tightenMembers_eq_map, List.flatMap_map]
    rw [hclose]
    refine List.flatMap_congr fun m hm => ?_
    obtain ⟨k, s⟩ := m
    rcases known (k, s) hm with hk | hk
    · rw [tightenValue_of_plain hk,
        memberFaults_of_plain hk (fun key hkey => lookup_tightened_beside ms hkey)]
    · have hk' : k ∈ ["additionalProperties", "allOf", "items", "properties"] :=
        List.mem_cons_of_mem _ hk
      rw [memberFaults_of_not_read hread hk', memberFaults_of_not_read hread hk']

/-! ### Validators -/

/-- The violations of an application: one for each member that the schema does not list. -/
def Application.violations (document : Json) (a : Application) : List Violation :=
  a.unlisted.map fun name =>
    ⟨Location.ofPointer (Json.Pointer.render a.path) document, .additionalProperty name,
      "Additional properties are not allowed ('" ++ name ++ "' was unexpected)"⟩

/-- They are what is reported for its faults. -/
theorem Application.violations_eq (document : Json) (a : Application) :
    a.violations document = a.faults.flatMap (Violation.ofFault document) := by
  unfold Application.violations Application.faults
  by_cases h : a.unlisted.isEmpty = true
  · rw [if_pos h, List.isEmpty_iff.mp h]
    rfl
  · rw [if_neg h, List.flatMap_singleton]
    rfl

section

variable {files : Files} {path : String} {kind : Kind} {schema : Json} {source : String}
  {loose tight : Validator}

/-- Where the keywords that apply subschemas are read, the tight validator reports one violation more
for each member of an application that is not listed. -/
theorem violations_perm_of_has (hs : schema.SortedKeys) (h : Plain true schema)
    (hl : (Validator.compile kind schema source ⟨files, path, .loose⟩).result = .ok loose)
    (ht : (Validator.compile kind schema source ⟨files, path, .tight⟩).result = .ok tight)
    (hread : loose.program.root.scope.vocabularies.has loose.program.root.scope.draft "properties")
    (document : Json) :
    (tight.violations document).Perm
      (loose.violations document ++
        (applications document schema).flatMap (Application.violations document)) := by
  obtain ⟨_, scope, _, hloose, htight⟩ := programs_twin hs hl ht
  unfold Validator.violations Program.faults Store.faults
  rw [hloose] at hread ⊢
  rw [htight]
  -- A plain schema has no references, so it does not matter how they are followed.
  have hperm := h.apply_tighten_perm hs hread
    (tight.program.store.follow (tight.program.store.depthBound document))
    (loose.program.store.follow (loose.program.store.depthBound document)) document
  have happlied : (applications document schema).flatMap (Application.violations document) =
      ((applications document schema).flatMap Application.faults).flatMap
        (Violation.ofFault document) := by
    rw [List.flatMap_assoc]
    exact List.flatMap_congr fun a _ => a.violations_eq document
  rw [happlied, ← List.flatMap_append]
  exact hperm.flatMap_right _

/-- **Drafts.** For a plain schema that names one of the drafts, or none, the tight validator reports
what the loose one reports and one violation for each member of an application that is not listed. -/
theorem violations_perm_of_detect (hs : schema.SortedKeys) (h : Plain true schema)
    (hdraft : (Draft.latest.detect schema).isOk)
    (hl : (Validator.compile kind schema source ⟨files, path, .loose⟩).result = .ok loose)
    (ht : (Validator.compile kind schema source ⟨files, path, .tight⟩).result = .ok tight)
    (document : Json) :
    (tight.violations document).Perm
      (loose.violations document ++
        (applications document schema).flatMap (Application.violations document)) := by
  refine violations_perm_of_has hs h hl ht ?_ document
  obtain ⟨⟨d, base, hg⟩, _⟩ := gathered_of_build (build_of_compile hl)
  rw [hg.vocabularies_eq_full hdraft]
  exact Vocabularies.full_has _ _

end

/-- **Validators.** For a plain schema the tight validator reports what the loose one reports, and
one violation for each application of an object schema with `properties` to an object and each
member of that object that it does not list; no more and no less. A meta-schema of one's own may
leave out the keywords that apply subschemas; then both report the same. -/
theorem violations_tight_perm {files : Files} {path : String} {kind : Kind} {schema : Json}
    (hs : schema.SortedKeys) (h : Plain true schema) {source : String} {loose tight : Validator}
    (hl : (Validator.compile kind schema source ⟨files, path, .loose⟩).result = .ok loose)
    (ht : (Validator.compile kind schema source ⟨files, path, .tight⟩).result = .ok tight)
    (document : Json) :
    (tight.violations document).Perm
      (loose.violations document ++
        if loose.program.root.scope.vocabularies.has loose.program.root.scope.draft "properties" then
          (applications document schema).flatMap (Application.violations document)
        else []) := by
  split
  · next hread => exact violations_perm_of_has hs h hl ht hread document
  · next hread =>
    obtain ⟨_, scope, _, hloose, htight⟩ := programs_twin hs hl ht
    unfold Validator.violations Program.faults Store.faults
    rw [hloose] at hread ⊢
    rw [htight, List.append_nil]
    rw [Bool.not_eq_true] at hread
    exact List.Perm.of_eq (congrArg _ (h.apply_tighten_of_not_read hread _ _ document))

/-- A schema for named nodes. -/
def nodesSchema : Json :=
  .obj
    [("$schema", .str "http://json-schema.org/draft-04/schema#"),
      ("allOf", .arr [.obj [("properties", .obj [("nodes", .obj [])]), ("type", .str "object")]]),
      ("properties", .obj
        [("nodes", .obj
          [("items", .obj
            [("properties", .obj [("name", .obj [("type", .str "string")])]),
              ("type", .str "object")]),
            ("type", .str "array")])]),
      ("type", .str "object")]

/-- A document with a member too many at its root and in a node. -/
def nodesDocument : Json :=
  .obj
    [("nodes", .arr [.obj [("name", .str "a"), ("size", .num (.int 1))]]),
      ("note", .str "b")]

theorem plain_nodesSchema : Plain true nodesSchema := by
  have hempty : Plain false (.obj []) := .of_known nofun
  have hname : Plain false (.obj [("type", .str "string")]) := .of_known (by decide)
  have hnode : Plain false (.obj
      [("properties", .obj [("name", .obj [("type", .str "string")])]),
        ("type", .str "object")]) := by
    refine .keywords (by decide) (by simp) ?_ (by simp) (by simp)
    simpa using hname
  have hnodes : Plain false (.obj
      [("items", .obj
        [("properties", .obj [("name", .obj [("type", .str "string")])]),
          ("type", .str "object")]),
        ("type", .str "array")]) := by
    refine .keywords (by decide) (by simp [Json.isArray]) (by simp) ?_ (by simp)
    simpa using hnode
  have hpart : Plain false (.obj
      [("properties", .obj [("nodes", .obj [])]), ("type", .str "object")]) := by
    refine .keywords (by decide) (by simp) ?_ (by simp) (by simp)
    simpa using hempty
  refine .keywords (by decide) (by simp) ?_ (by simp) ?_
  · simpa using hnodes
  · simpa using hpart

theorem compile_nodesSchema :
    (Validator.compile .profile nodesSchema "profiles.json"
          ⟨noFiles, ".", .loose⟩).result.toOption.map
        (fun v => v.program.root.scope.vocabularies.has v.program.root.scope.draft "properties") =
        some true ∧
      (Validator.compile .profile nodesSchema "profiles.json" ⟨noFiles, ".", .tight⟩).result.isOk =
        true := by
  decide +kernel

theorem violations_tight_perm_nodesSchema :
    nodesSchema.SortedKeys ∧ Plain true nodesSchema ∧ ∃ loose tight,
      (Validator.compile .profile nodesSchema "profiles.json" ⟨noFiles, ".", .loose⟩).result =
        .ok loose ∧
      (Validator.compile .profile nodesSchema "profiles.json" ⟨noFiles, ".", .tight⟩).result =
        .ok tight ∧
      (tight.violations nodesDocument).Perm
        (loose.violations nodesDocument ++
          [⟨"", .additionalProperty "note",
              "Additional properties are not allowed ('note' was unexpected)"⟩,
            ⟨"", .additionalProperty "note",
              "Additional properties are not allowed ('note' was unexpected)"⟩,
            ⟨".nodes[0]", .additionalProperty "size",
              "Additional properties are not allowed ('size' was unexpected)"⟩]) := by
  have hs : nodesSchema.SortedKeys := by decide +kernel
  obtain ⟨loose, hl, hread⟩ := exists_of_toOption compile_nodesSchema.1
  obtain ⟨tight, ht⟩ := exists_of_isOk compile_nodesSchema.2
  have hperm := violations_tight_perm hs plain_nodesSchema hl ht nodesDocument
  rw [if_pos hread] at hperm
  have happlied : (applications nodesDocument nodesSchema).flatMap
      (Application.violations nodesDocument) =
      [⟨"", .additionalProperty "note",
          "Additional properties are not allowed ('note' was unexpected)"⟩,
        ⟨"", .additionalProperty "note",
          "Additional properties are not allowed ('note' was unexpected)"⟩,
        ⟨".nodes[0]", .additionalProperty "size",
          "Additional properties are not allowed ('size' was unexpected)"⟩] := by
    decide +kernel
  rw [happlied] at hperm
  exact ⟨hs, plain_nodesSchema, loose, tight, hl, ht, hperm⟩

end DocCheck.Schema
