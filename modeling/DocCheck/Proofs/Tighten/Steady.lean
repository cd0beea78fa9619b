import DocCheck.Proofs.Schema.Covered
import DocCheck.Proofs.Schema.Told
import DocCheck.Proofs.Tighten.Stricter

/-!
# Where tight is at least as strict as loose

Tightening descends into keywords that ask that a subschema does not hold, and a reference may take
for a schema what tightening took for a map of schemas. A document may so be refused loosely and
accepted tightly. This cannot happen if tightening changes nothing there.

* `Steady` — tightening changes nothing where a change could be reversed;
* `Reached.stricter` — then every place that is reached becomes stricter;
* `violations_eq_nil_of_tight` — what the tight validator accepts the loose one accepts;
* `not_violations_eq_nil_of_tight`, `not_violations_eq_nil_of_reversed` — this does not hold of all
  schemas, and the keywords that ask for the opposite are not the only reason.
-/

namespace DocCheck.Schema

open Json (lookup)
open Rule (Stricter)

/-- Tightening changes nothing of what is accepted at a place. -/
def Place.Keeps (written used : Store) (p : Place) : Prop :=
  ∀ n v, (p.target.compile.rule (used.follow n)).accepts v =
    (p.source.compile.rule (written.follow n)).accepts v

/-- **Steadiness.** Tightening changes nothing where a change could be reversed. -/
structure Steady (a : Atlas) (written used : Store) (root : Place) : Prop where
  /-- Subschemas of keywords that ask that they do not hold, that decide by them what else is asked
  or that bound how many of them hold accept the same values. -/
  reversed : ∀ {p q : Place} {k : String}, Reached a written used root p → p.Subschema k q →
    p.reverses k → q.Keeps written used
  /-- A map of schemas that is reached in the place of a schema stays as it is, or becomes what it
  would become as a schema. -/
  map : ∀ {p : Place}, Reached a written used root p → p.position.IsMap →
    p.used = p.written ∨ p.used = tighten p.written

/-! ### Sizes -/

/-- What a step leads to is smaller. -/
theorem size_lt_of_child? {j c : Json} {s : Json.Step} (h : j.child? s = some c) :
    c.size < j.size := by
  cases j with
  | obj ms =>
    cases s with
    | index i => exact nomatch h
    | key k => exact Json.size_lt_of_mem_members (Json.mem_of_lookup h)
  | arr xs =>
    cases s with
    | key k => exact nomatch h
    | index i => exact Json.size_lt_of_mem_items (List.mem_of_getElem? h)
  | _ => exact nomatch h

/-- What a path leads to is not greater. -/
theorem size_le_of_at? {j c : Json} {path : List Json.Step} (h : j.at? path = some c) :
    c.size ≤ j.size := by
  induction path generalizing j with
  | nil =>
    cases h
    exact Nat.le_refl _
  | cons s rest ih =>
    rw [Json.at?_cons] at h
    obtain ⟨d, hd, hc⟩ := Option.bind_eq_some_iff.mp h
    exact Nat.le_of_lt (Nat.lt_of_le_of_lt (ih hc) (size_lt_of_child? hd))

theorem Place.Subschema.size_lt {p q : Place} {k : String} (h : p.Subschema k q) :
    q.written.size < p.written.size := by
  obtain ⟨_, _, hw, _, _⟩ := h
  rw [Json.at?_cons] at hw
  obtain ⟨d, hd, hc⟩ := Option.bind_eq_some_iff.mp hw
  exact Nat.lt_of_le_of_lt (size_le_of_at? hc) (size_lt_of_child? hd)

/-! ### Places -/

variable {a : Atlas} {s : Sources} {written used : Store} {root p : Place} {fu fw : Follow}

/-- A value at a place that holds keywords is treated as a schema, or stays as it is. -/
theorem Place.Sound.exists_role (hp : p.Sound)
    (hmap : p.position.IsMap → p.used = p.written ∨ p.used = tighten p.written)
    {ms : List (String × Json)} (hw : p.written = .obj ms) :
    ∃ e : Role, (e = .schema ∨ e = .data) ∧ p.used = e.used (.obj ms) := by
  have hused := Position.Holds.used_eq hp
  rw [hw] at hused hmap
  cases hrole : p.position.role with
  | schema =>
    rw [hrole] at hused
    exact ⟨.schema, .inl rfl, hused⟩
  | data =>
    rw [hrole] at hused
    exact ⟨.data, .inr rfl, hused⟩
  -- A map of keywords in the place of a list is left alone.
  | items =>
    rw [hrole] at hused
    exact ⟨.data, .inr rfl, hused⟩
  | named =>
    rcases hmap (Position.Holds.isMap hp hrole) with h | h
    · exact ⟨.data, .inr rfl, h⟩
    · exact ⟨.schema, .inl rfl, h⟩

/-- A reference that hides everything beside it. -/
theorem stricter_of_hidden {e : Role} (he : e = .schema ∨ e = .data) {ms : List (String × Json)}
    (hw : p.written = .obj ms) (hu : p.used = e.used (.obj ms)) (hhidden : p.isHidden = true)
    (href : ∀ {r : Reference}, p.Refers r → (fu r).Stricter (fw r)) :
    StricterNode fu fw p.target.compile p.source.compile := by
  unfold Place.isHidden at hhidden
  rw [Bool.and_eq_true, hw] at hhidden
  obtain ⟨hd, hsome⟩ := hhidden
  obtain ⟨v, hv⟩ := Option.isSome_iff_exists.mp hsome
  obtain ⟨ns, hns⟩ : ∃ ns, e.used (.obj ms) = .obj ns := ⟨_, e.used_obj ms⟩
  -- A reference is data, and there is nothing else that is read.
  have hv' : lookup "$ref" ns = some v := by
    rw [Below.lookup_used hns hv, Below.child_of_carrier he rfl, Role.used_data]
  unfold Place.target Place.source
  rw [hu, hw, hns, compile_obj_hidden hd hv, compile_obj_hidden hd hv']
  unfold StricterNode
  rw [rule_all, rule_all]
  refine Stricter.inTurn_of_forall₂ ?_
  rw [List.forall₂_map_left_iff, List.forall₂_map_right_iff]
  refine Below.referenceParts_stricter fun text ht => href (.plain ?_)
  rw [hw, ← ht]
  exact hv

/-- What is no object asks the same, however it is treated. -/
theorem stricter_of_not_object (hp : p.Sound) (hw : p.written.isObject = false) :
    StricterNode fu fw p.target.compile p.source.compile := by
  unfold Place.target Place.source
  rw [Position.Holds.used_eq hp]
  cases hj : p.written with
  | obj ms =>
    rw [hj] at hw
    exact Bool.noConfusion hw
  | arr xs =>
    rw [Role.used_arr]
    exact Rule.stricter_always
  | bool b =>
    rw [Role.used_scalar _ rfl rfl]
    cases b with
    | true => exact Rule.stricter_always
    | false => exact Rule.stricter_never
  | _ =>
    rw [Role.used_scalar _ rfl rfl]
    exact Rule.stricter_always

/-! ### Reached places -/

/-- **One depth.** If what references mean is stricter, every place that is reached is. -/
theorem Reached.stricter_of_references (ha : a.Charts s written used) (hroot : root.Sound)
    (hsteady : Steady a written used root) {n : Nat}
    (href : ∀ {p : Place} {r : Reference}, Reached a written used root p → p.Refers r →
      (used.follow n r).Stricter (written.follow n r))
    (hp : Reached a written used root p) :
    StricterNode (used.follow n) (written.follow n) p.target.compile p.source.compile := by
  -- Subschemas are smaller than the schemas around them.
  induction hsize : p.written.size using Nat.strongRecOn generalizing p with
  | ind size ih =>
    have hsound := hp.sound ha hroot
    cases hobj : p.written.isObject with
    | false => exact stricter_of_not_object hsound hobj
    | true =>
      obtain ⟨ms, hw⟩ : ∃ ms, p.written = .obj ms := by
        cases hj : p.written with
        | obj ms => exact ⟨ms, rfl⟩
        | _ =>
          rw [hj] at hobj
          exact Bool.noConfusion hobj
      obtain ⟨e, he, hu⟩ := hsound.exists_role (hsteady.map hp) hw
      cases hhidden : p.isHidden with
      | true => exact stricter_of_hidden he hw hu hhidden (href hp)
      | false =>
        have hbelow : Below (used.follow n) (written.follow n) p e ms :=
          { written_eq := hw
            used_eq := hu
            role := he
            sorted := hw ▸ hsound.sorted.at? hsound.at?_written
            visible := hhidden
            stricter := fun hq => ih _ (hsize ▸ hq.size_lt) (.keyword hp hq) rfl
            keeps := fun hq hr v => hsteady.reversed hp hq hr n v
            references := href hp }
        exact hbelow.stricter_self

/-- Following a reference one step further. -/
theorem follow_stricter (ha : a.Charts s written used) {n : Nat}
    (hn : ∀ {p : Place}, Reached a written used root p →
      StricterNode (used.follow n) (written.follow n) p.target.compile p.source.compile)
    (hp : Reached a written used root p) {r : Reference} (hr : p.Refers r) :
    (used.follow (n + 1) r).Stricter (written.follow (n + 1) r) := by
  have hbounded := used.follow_bounded (n + 1) r
  unfold Store.follow at hbounded ⊢
  cases hw : written.target r with
  | ok t =>
    -- Either it leads to itself at once in both stores, or to a place that is reached.
    rcases target_leads ha r hw with ⟨rfl, hu⟩ | ⟨scope, w, _, _, rfl, _, _, _⟩
    · rw [hu]
      exact Stricter.deferred (fun _ h => h) fun _ => .refl _
    · obtain ⟨position, u, _, hu, hq⟩ := hp.exists_reference ha hr hw
      have hs := hn hq
      rw [hu]
      exact Stricter.deferred (fun _ h => hs.accepts h) hs.coverage
  -- What means nothing as it was written accepts everything, and has looked at everything.
  | error err => exact Stricter.deferred (fun _ _ => rfl) hbounded

/-- **Every depth.** Every place that is reached becomes stricter, however deep references are
followed. -/
theorem Reached.stricter (ha : a.Charts s written used) (hroot : root.Sound)
    (hsteady : Steady a written used root) (n : Nat) (hp : Reached a written used root p) :
    StricterNode (used.follow n) (written.follow n) p.target.compile p.source.compile := by
  induction n generalizing p with
  | zero => exact hp.stricter_of_references ha hroot hsteady fun _ _ => Rule.stricter_always
  | succ n ih =>
    exact hp.stricter_of_references ha hroot hsteady fun hp hr => follow_stricter ha ih hp hr

/-! ### Validators -/

/-- Twins hold as many objects. -/
theorem StoreTwin.objects_eq (h : StoreTwin s written used) : used.objects = written.objects := by
  have hr := h.resources
  unfold Store.objects
  revert hr
  generalize written.resources = rws
  generalize used.resources = rus
  intro hr
  induction hr with
  | nil => rfl
  | cons hn _ ih =>
    obtain ⟨_, p, _, hn⟩ := hn
    rw [List.foldr_cons, List.foldr_cons, ih, hn.schema.used_eq, Role.objects_used]

/-- Validators of both strictnesses have an atlas. -/
theorem exists_charts {files : Files} {path : String} {kind : Kind} {schema : Json}
    (hs : schema.SortedKeys) {source : String} {loose tight : Validator}
    (hl : (Validator.compile kind schema source ⟨files, path, .loose⟩).result = .ok loose)
    (ht : (Validator.compile kind schema source ⟨files, path, .tight⟩).result = .ok tight) :
    ∃ base a, Atlas.Charts a ⟨base, schema, SchemaDir.retrieve ⟨files, path, .loose⟩⟩
      loose.program.store tight.program.store := by
  obtain ⟨base, _, hst, _⟩ := programs_twin hs hl ht
  obtain ⟨a, ha⟩ := hst.exists_atlas
  exact ⟨base, a, ha⟩

/-- **Tight is at least as strict as loose.** Where tightening changes nothing that could be
reversed, a document in which the tight validator of a schema finds no violation is one in which the
loose validator finds none. -/
theorem violations_eq_nil_of_tight {files : Files} {path : String} {kind : Kind} {schema : Json}
    (hs : schema.SortedKeys) {source : String} {loose tight : Validator}
    (hl : (Validator.compile kind schema source ⟨files, path, .loose⟩).result = .ok loose)
    (ht : (Validator.compile kind schema source ⟨files, path, .tight⟩).result = .ok tight)
    {s : Sources} {a : Atlas} (ha : a.Charts s loose.program.store tight.program.store)
    (hsteady : Steady a loose.program.store tight.program.store
      (.root loose.program.root.scope schema)) {document : Json}
    (hnil : tight.violations document = []) : loose.violations document = [] := by
  obtain ⟨_, scope, hst, hrootl, hroott⟩ := programs_twin hs hl ht
  rw [hrootl] at hsteady
  have hroot := Place.sound_root scope hs
  have hstricter := Reached.root.stricter ha hroot hsteady (loose.program.store.depthBound document)
  have hdepth : tight.program.store.depthBound document =
      loose.program.store.depthBound document := by
    unfold Store.depthBound
    rw [hst.objects_eq]
  rw [Validator.violations_eq_nil_iff] at hnil ⊢
  unfold Program.faults Store.faults at hnil ⊢
  rw [hrootl]
  rw [hroott, hdepth] at hnil
  exact hstricter.entails (fun _ => .refl _) document hnil

/-! ### A steady schema, and one that is not -/

/-- A record with a name, which may have any other member. -/
def entrySchema : Json :=
  .obj [("properties", .obj [("name", .obj [])]), ("type", .str "object")]

/-- A list of records, which is no text. -/
def entriesDefinition : Json :=
  .obj [("items", entrySchema), ("not", .obj [("type", .str "string")]), ("type", .str "array")]

/-- A schema that refers to a definition. -/
def entriesSchema : Json :=
  .obj
    [("$ref", .str "#/definitions/entries"),
      ("$schema", .str "http://json-schema.org/draft-04/schema#"),
      ("definitions", .obj [("entries", entriesDefinition)])]

/-- A schema that asks for a type only is the same wherever references lead. -/
theorem keeps_of_type {written used : Store} {scope : Scope} {position : Position} {v : Json} :
    Place.Keeps written used ⟨scope, position, .obj [("type", v)], .obj [("type", v)]⟩ := by
  intro n doc
  have hvisible : (scope.draft.referenceHidesSiblings &&
      (lookup "$ref" [("type", v)]).isSome) = false := Bool.and_false _
  have hparts : Keyword.AreLeaves (memberParts scope [("type", v)] ("type", v)) := by
    unfold memberParts Keyword.parts
    split
    · have hchecks : Keyword.AreChecks (Keyword.Asks [("type", v)] "type")
          (Keyword.typeParts scope.draft v) := Keyword.areChecks_typeParts scope.draft v
      exact hchecks.areLeaves
    · exact Keyword.areLeaves_nil
  change ((Target.compile ⟨scope, .obj [("type", v)]⟩).rule _).accepts doc =
    ((Target.compile ⟨scope, .obj [("type", v)]⟩).rule _).accepts doc
  rw [compile_obj hvisible, List.flatMap_singleton, rule_all, rule_all]
  refine congrArg (fun rs => (Rule.inTurn rs).accepts doc) (List.map_congr_left fun m hm => ?_)
  exact Node.rule_of_isLeaf (hparts m hm) _ _

/-- The steps to a subschema of a place that is known begin with one of its keywords. -/
theorem Place.Subschema.exists_member {p q : Place} {k : String} {ms : List (String × Json)}
    (hw : p.written = .obj ms) (h : p.Subschema k q) :
    ∃ v, (k, v) ∈ ms ∧ Holding.ofKeyword k ≠ .data := by
  obtain ⟨_, hsteps, hat, _, _⟩ := h
  rw [hw, Json.at?_cons] at hat
  obtain ⟨v, hv, _⟩ := Option.bind_eq_some_iff.mp hat
  refine ⟨v, Json.mem_of_lookup hv, fun hd => ?_⟩
  unfold leadsToSubschema at hsteps
  rw [hd] at hsteps
  exact Bool.noConfusion hsteps

/-- Where no keyword holds schemas, there are no subschemas. -/
theorem Place.not_subschema {p q : Place} {k : String} {ms : List (String × Json)}
    (hw : p.written = .obj ms) (hdata : ∀ m ∈ ms, Holding.ofKeyword m.1 = .data) :
    ¬ p.Subschema k q := by
  intro h
  obtain ⟨v, hmem, hheld⟩ := h.exists_member hw
  exact hheld (hdata (k, v) hmem)

/-- What stands at the places behind the reference, all tightened as schemas. -/
def IsEntryPlace (p : Place) : Prop :=
  p.written ∈ [entriesDefinition, entrySchema, .obj [("type", .str "string")], .obj []] ∧
    p.used = tighten p.written

/-- The list has the schema of its items and what it is not. -/
theorem subschema_entriesDefinition {p q : Place} {k : String} (hw : p.written = entriesDefinition)
    (hu : p.used = tighten entriesDefinition) (hq : p.Subschema k q) :
    IsEntryPlace q ∧ (p.reverses k → q.written = .obj [("type", .str "string")]) := by
  obtain ⟨v, hv, hheld⟩ := hq.exists_member hw
  obtain @⟨steps, w, u, _, _, hsteps, hw', hu', _⟩ := hq
  rw [hw] at hw'
  rw [hu] at hu'
  simp only [List.mem_cons, Prod.mk.injEq, List.not_mem_nil, or_false] at hv
  rcases hv with ⟨rfl, _⟩ | ⟨rfl, _⟩ | ⟨rfl, _⟩
  · match steps, hsteps, hw', hu' with
    | [], _, hw', hu' =>
      cases hw'
      cases hu'
      exact ⟨⟨by simp, rfl⟩, fun h => Bool.noConfusion h⟩
    | [.index _], _, hw', _ => exact nomatch (hw' : none = some w)
  · match steps, hsteps, hw', hu' with
    | [], _, hw', hu' =>
      cases hw'
      cases hu'
      exact ⟨⟨by simp, rfl⟩, fun _ => rfl⟩
    | [.index _], _, hw', _ => exact nomatch (hw' : none = some w)
  · exact absurd rfl hheld

/-- A record has a schema for its name. -/
theorem subschema_entrySchema {p q : Place} {k : String} (hw : p.written = entrySchema)
    (hu : p.used = tighten entrySchema) (hq : p.Subschema k q) :
    IsEntryPlace q ∧ (p.reverses k → q.written = .obj [("type", .str "string")]) := by
  obtain ⟨v, hv, hheld⟩ := hq.exists_member hw
  obtain @⟨steps, w, u, _, _, hsteps, hw', hu', _⟩ := hq
  rw [hw] at hw'
  rw [hu] at hu'
  simp only [List.mem_cons, Prod.mk.injEq, List.not_mem_nil, or_false] at hv
  rcases hv with ⟨rfl, _⟩ | ⟨rfl, _⟩
  · match steps, hsteps, hw', hu' with
    | [.key name], _, hw', hu' =>
      by_cases hname : name = "name"
      · subst hname
        cases hw'
        cases hu'
        exact ⟨⟨by simp, rfl⟩, fun h => Bool.noConfusion h⟩
      · have hnone : lookup name [("name", .obj [])] = none := by
          rw [Json.lookup_cons, if_neg (Ne.symm hname)]
          rfl
        change (lookup name [("name", .obj [])]).bind _ = some w at hw'
        rw [hnone] at hw'
        exact nomatch hw'
  · exact absurd rfl hheld

/-- Behind the reference keywords lead on to such places, and what the list is not is a type. -/
theorem IsEntryPlace.subschema {p q : Place} {k : String} (hp : IsEntryPlace p)
    (hq : p.Subschema k q) :
    IsEntryPlace q ∧ (p.reverses k → q.written = .obj [("type", .str "string")]) := by
  obtain ⟨hmem, hu⟩ := hp
  simp only [List.mem_cons, List.not_mem_nil, or_false] at hmem
  rcases hmem with hw | hw | hw | hw
  · rw [hw] at hu
    exact subschema_entriesDefinition hw hu hq
  · rw [hw] at hu
    exact subschema_entrySchema hw hu hq
  · exact absurd hq (Place.not_subschema hw (by decide))
  · exact absurd hq (Place.not_subschema hw (by decide))

/-- Where nothing else refers, references are plain. -/
theorem Place.Refers.exists_plain {p : Place} {r : Reference} (hr : p.Refers r)
    (hkeys : ∀ k ∈ ["$dynamicRef", "$recursiveRef"], p.written.get? k = none) :
    ∃ text, p.written.get? "$ref" = some (.str text) ∧ r = ⟨p.scope, "$ref", some text⟩ := by
  cases hr with
  | plain ht => exact ⟨_, ht, rfl⟩
  | dynamic _ ht =>
    rw [hkeys _ (by simp)] at ht
    cases ht
  | recursive _ ht =>
    rw [hkeys _ (by simp)] at ht
    cases ht

/-- Behind the reference there are no others. -/
theorem IsEntryPlace.not_refers {p : Place} {r : Reference} (hp : IsEntryPlace p) :
    ¬ p.Refers r := by
  intro hr
  have hkeys : ∀ k ∈ ["$ref", "$dynamicRef", "$recursiveRef"], p.written.get? k = none := by
    have hmem := hp.1
    simp only [List.mem_cons, List.not_mem_nil, or_false] at hmem
    rcases hmem with hw | hw | hw | hw
    all_goals
      rw [hw]
      decide
  obtain ⟨text, ht, _⟩ := hr.exists_plain fun k hk => hkeys k (List.mem_cons_of_mem _ hk)
  rw [hkeys "$ref" List.mem_cons_self] at ht
  cases ht

section

variable {a : Atlas} {written used : Store} {scope : Scope}

/-- The reference in the schema. -/
def entriesReference (scope : Scope) : Reference := ⟨scope, "$ref", some "#/definitions/entries"⟩

theorem reached_entriesSchema
    (hwritten : (written.target (entriesReference scope)).toOption.join.map Target.schema =
      some entriesDefinition)
    (hused : (used.target (entriesReference scope)).toOption.join.map Target.schema =
      some (tighten entriesDefinition)) {p : Place}
    (h : Reached a written used (.root scope entriesSchema) p) :
    p = .root scope entriesSchema ∨ IsEntryPlace p := by
  induction h with
  | root => exact .inl rfl
  | keyword _ hq ih =>
    rcases ih with rfl | hp
    · exact absurd hq (Place.not_subschema rfl (by decide))
    · exact .inr (hp.subschema hq).1
  | reference _ hr hw hu _ ih =>
    rcases ih with rfl | hp
    -- The reference at the root is the only one.
    · have hkeys : ∀ k ∈ ["$dynamicRef", "$recursiveRef"], entriesSchema.get? k = none := by decide
      obtain ⟨text, ht, rfl⟩ := hr.exists_plain hkeys
      cases ht
      change written.target (entriesReference scope) = _ at hw
      change used.target (entriesReference scope) = _ at hu
      rw [hw] at hwritten
      rw [hu] at hused
      cases Option.some.inj hwritten
      cases Option.some.inj hused
      exact .inr ⟨List.mem_cons_self, rfl⟩
    · exact absurd hr hp.not_refers

/-- Tightening changes nothing in the schema that could be reversed. -/
theorem steady_entriesSchema
    (hwritten : (written.target (entriesReference scope)).toOption.join.map Target.schema =
      some entriesDefinition)
    (hused : (used.target (entriesReference scope)).toOption.join.map Target.schema =
      some (tighten entriesDefinition)) :
    Steady a written used (.root scope entriesSchema) where
  reversed := by
    intro p q k hp hq hr
    rcases reached_entriesSchema hwritten hused hp with rfl | hp
    · exact absurd hq (Place.not_subschema rfl (by decide))
    · obtain ⟨hq, htype⟩ := hp.subschema hq
      have hw := htype hr
      have hu := hq.2
      rw [hw] at hu
      obtain ⟨scope, position, w, u⟩ := q
      obtain rfl : w = _ := hw
      obtain rfl : u = _ := hu
      exact keeps_of_type
  map := by
    intro p hp _
    rcases reached_entriesSchema hwritten hused hp with rfl | hp
    · exact .inr rfl
    · exact .inr hp.2

end

/-- What the reference means and what both validators find. -/
theorem violations_entriesSchema :
    (Validator.compile .profile entriesSchema "profiles.json"
        ⟨noFiles, ".", .loose⟩).result.toOption.map
      (fun v => (v.program.store.target (entriesReference v.program.root.scope)).toOption.join.map
        Target.schema) = some (some entriesDefinition) ∧
      (Validator.compile .profile entriesSchema "profiles.json"
          ⟨noFiles, ".", .tight⟩).result.toOption.map
        (fun v => ((v.program.store.target
            (entriesReference v.program.root.scope)).toOption.join.map Target.schema,
          v.violations (.arr [.obj [("name", .str "a")]]))) =
        some (some (tighten entriesDefinition), []) := by
  decide +kernel

theorem violations_eq_nil_of_tight_entriesSchema :
    entriesSchema.SortedKeys ∧ ∃ loose tight,
      (Validator.compile .profile entriesSchema "profiles.json" ⟨noFiles, ".", .loose⟩).result =
        .ok loose ∧
      (Validator.compile .profile entriesSchema "profiles.json" ⟨noFiles, ".", .tight⟩).result =
        .ok tight ∧
      ∃ s a, Atlas.Charts a s loose.program.store tight.program.store ∧
        Steady a loose.program.store tight.program.store
          (.root loose.program.root.scope entriesSchema) ∧
        tight.violations (.arr [.obj [("name", .str "a")]]) = [] ∧
        loose.violations (.arr [.obj [("name", .str "a")]]) = [] := by
  have hs : entriesSchema.SortedKeys := by decide +kernel
  obtain ⟨loose, hl, hwritten⟩ := exists_of_toOption violations_entriesSchema.1
  obtain ⟨tight, ht, hfound⟩ := exists_of_toOption violations_entriesSchema.2
  obtain ⟨hused, hnil⟩ := Prod.mk.inj hfound
  obtain ⟨base, a, ha⟩ := exists_charts hs hl ht
  have hscope : tight.program.root.scope = loose.program.root.scope := by
    obtain ⟨_, scope, _, hrootl, hroott⟩ := programs_twin hs hl ht
    rw [hrootl, hroott]
  rw [hscope] at hused
  have hsteady : Steady a _ _ _ := steady_entriesSchema hwritten hused
  exact ⟨hs, loose, tight, hl, ht, _, a, ha, hsteady, hnil,
    violations_eq_nil_of_tight hs hl ht ha hsteady hnil⟩

/-- A schema that does not allow objects of one kind. -/
def notOpenSchema : Json :=
  .obj
    [("$schema", .str "http://json-schema.org/draft-04/schema#"),
      ("not", .obj [("properties", .obj [("a", .obj [])]), ("type", .str "object")])]

theorem violations_notOpenSchema :
    (Validator.compile .profile notOpenSchema "profiles.json"
        ⟨noFiles, ".", .loose⟩).result.toOption.map
      (fun v => (v.violations (.obj [("b", .num (.int 1))])).length) = some 1 ∧
      (Validator.compile .profile notOpenSchema "profiles.json"
          ⟨noFiles, ".", .tight⟩).result.toOption.map
        (fun v => v.violations (.obj [("b", .num (.int 1))])) = some [] := by
  decide +kernel

/-- Once what a schema does not allow is closed, the schema allows more. -/
theorem not_violations_eq_nil_of_tight :
    ¬ ∀ (files : Files) (path : String) (kind : Kind) (schema : Json) (source : String)
        (loose tight : Validator), schema.SortedKeys →
      (Validator.compile kind schema source ⟨files, path, .loose⟩).result = .ok loose →
      (Validator.compile kind schema source ⟨files, path, .tight⟩).result = .ok tight →
      ∀ document, tight.violations document = [] → loose.violations document = [] := by
  intro h
  have hs : notOpenSchema.SortedKeys := by decide +kernel
  obtain ⟨loose, hl, hone⟩ := exists_of_toOption violations_notOpenSchema.1
  obtain ⟨tight, ht, hnil⟩ := exists_of_toOption violations_notOpenSchema.2
  rw [h _ _ _ _ _ _ _ hs hl ht _ hnil] at hone
  exact Nat.noConfusion hone

/-! ### Maps that are taken for schemas -/

/-- Definitions that, taken for a schema, ask for one value. -/
def constDefinitions : Json :=
  .obj [("const", .obj [("properties", .obj []), ("type", .str "object")])]

/-- A schema that takes its definitions for a schema. -/
def mapReferenceSchema : Json :=
  .obj
    [("$ref", .str "#/definitions"),
      ("$schema", .str "http://json-schema.org/draft-07/schema#"),
      ("definitions", constDefinitions)]

/-- The value that the definitions ask for once they are tightened. -/
def closedRecord : Json :=
  .obj [("additionalProperties", .bool false), ("properties", .obj []), ("type", .str "object")]

/-- No keyword of the schema or of its definitions holds schemas that it applies. -/
theorem not_subschema_mapReferenceSchema {p q : Place} {k : String}
    (hp : p.written = mapReferenceSchema ∨ p.written = constDefinitions) : ¬ p.Subschema k q := by
  rcases hp with hw | hw
  · exact Place.not_subschema hw (by decide)
  · exact Place.not_subschema hw (by decide)

/-- The reference in the schema is the only one. -/
theorem refers_mapReferenceSchema {scope : Scope} {p : Place} {r : Reference} (hr : p.Refers r)
    (hp : p = .root scope mapReferenceSchema ∨ p.written = constDefinitions) :
    r = ⟨scope, "$ref", some "#/definitions"⟩ := by
  have hkeys : ∀ k ∈ ["$dynamicRef", "$recursiveRef"], p.written.get? k = none := by
    rcases hp with rfl | hw
    · change ∀ k ∈ ["$dynamicRef", "$recursiveRef"], mapReferenceSchema.get? k = none
      decide
    · rw [hw]
      decide
  obtain ⟨text, ht, rfl⟩ := hr.exists_plain hkeys
  rcases hp with rfl | hw
  · cases ht
    rfl
  · rw [hw] at ht
    cases ht

theorem reached_mapReferenceSchema {a : Atlas} {written used : Store} {scope : Scope} {p : Place}
    (htarget : ((written.target ⟨scope, "$ref", some "#/definitions"⟩).toOption.join.map
      Target.schema) = some constDefinitions)
    (h : Reached a written used (.root scope mapReferenceSchema) p) :
    p = .root scope mapReferenceSchema ∨ p.written = constDefinitions := by
  induction h with
  | root => exact .inl rfl
  | keyword _ hq ih =>
    exact absurd hq (not_subschema_mapReferenceSchema (ih.imp_left (congrArg Place.written)))
  | reference _ hr hw _ _ ih =>
    rw [← refers_mapReferenceSchema hr ih, hw] at htarget
    exact .inr (Option.some.inj htarget)

/-- What the validators of the schema find, and what its reference means. -/
theorem violations_mapReferenceSchema :
    (Validator.compile .profile mapReferenceSchema "profiles.json"
        ⟨noFiles, ".", .loose⟩).result.toOption.map
      (fun v => ((v.violations closedRecord).length,
        (v.program.store.target
          ⟨v.program.root.scope, "$ref", some "#/definitions"⟩).toOption.join.map
          Target.schema)) = some (1, some constDefinitions) ∧
      (Validator.compile .profile mapReferenceSchema "profiles.json"
          ⟨noFiles, ".", .tight⟩).result.toOption.map
        (fun v => v.violations closedRecord) = some [] := by
  decide +kernel

/-- It is not enough that tightening changes nothing below the keywords that reverse. -/
theorem not_violations_eq_nil_of_reversed :
    ¬ ∀ (files : Files) (path : String) (kind : Kind) (schema : Json) (source : String)
        (loose tight : Validator), schema.SortedKeys →
      (Validator.compile kind schema source ⟨files, path, .loose⟩).result = .ok loose →
      (Validator.compile kind schema source ⟨files, path, .tight⟩).result = .ok tight →
      ∀ (s : Sources) (a : Atlas), a.Charts s loose.program.store tight.program.store →
      (∀ (p q : Place) (k : String), Reached a loose.program.store tight.program.store
        (.root loose.program.root.scope schema) p → p.Subschema k q → p.reverses k →
          q.Keeps loose.program.store tight.program.store) →
      ∀ document, tight.violations document = [] → loose.violations document = [] := by
  intro h
  have hs : mapReferenceSchema.SortedKeys := by decide +kernel
  obtain ⟨loose, hl, hfound⟩ := exists_of_toOption violations_mapReferenceSchema.1
  obtain ⟨tight, ht, hnil⟩ := exists_of_toOption violations_mapReferenceSchema.2
  obtain ⟨hone, htarget⟩ := Prod.mk.inj hfound
  obtain ⟨base, a, ha⟩ := exists_charts hs hl ht
  have hreversed : ∀ (p q : Place) (k : String), Reached a loose.program.store tight.program.store
      (.root loose.program.root.scope mapReferenceSchema) p → p.Subschema k q → p.reverses k →
        q.Keeps loose.program.store tight.program.store := by
    intro p q k hp hq _
    have hw := (reached_mapReferenceSchema htarget hp).imp_left (congrArg Place.written)
    exact absurd hq (not_subschema_mapReferenceSchema hw)
  rw [h _ _ _ _ _ _ _ hs hl ht _ a ha hreversed _ hnil] at hone
  exact Nat.noConfusion hone

end DocCheck.Schema
