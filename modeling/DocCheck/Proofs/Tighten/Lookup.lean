import DocCheck.Proofs.Tighten.Atlas

/-!
# Looking up twins

A reference that means a schema in a store of written schemas means a schema in the store of what
they became too, in the same scope: the one that stands at the same position, and that is the
position that the reference means by its text.

* `Leads` — where one search ends, the other one ends at the same position;
* `walk_leads` — following a pointer;
* `lookup_leads` — looking up a text;
* `target_leads` — the schema that a reference means.
-/

namespace DocCheck.Schema

open Json (lookup)

/-- Where the first search ends at a schema, the second one ends in the same scope at what stands at
the same position, which is one of some positions. -/
def Leads (P : Position → Prop) (written used : Except ReferenceError Target) : Prop :=
  ∀ t, written = .ok t → ∃ p u, P p ∧ p.Holds t.schema u ∧ used = .ok ⟨t.scope, u⟩

theorem leads_error {P : Position → Prop} {e : ReferenceError}
    {used : Except ReferenceError Target} : Leads P (.error e) used :=
  nofun

theorem leads_ok {P : Position → Prop} {p : Position} (hp : P p) {scope : Scope} {w u : Json}
    (h : p.Holds w u) : Leads P (.ok ⟨scope, w⟩) (.ok ⟨scope, u⟩) := by
  intro t ht
  cases ht
  exact ⟨p, u, hp, h, rfl⟩

theorem Leads.imp {P Q : Position → Prop} (hPQ : ∀ p, P p → Q p)
    {written used : Except ReferenceError Target} (h : Leads P written used) :
    Leads Q written used := by
  intro t ht
  obtain ⟨p, u, hp, hholds, hu⟩ := h t ht
  exact ⟨p, u, hPQ p hp, hholds, hu⟩

/-! ### Scopes -/

theorem enter_twin (scope : Scope) {rw ru : Resource} (h : ResourceTwin Twin rw ru) :
    scope.enter ru = scope.enter rw := by
  unfold Scope.enter
  rw [h.id?_eq, h.draft]

/-- Whether a path leads to a subschema depends on the kind of value there, which twins share. -/
theorem isSchemaPlace_twin (d : Draft) {written used : Json} (h : Twin written used)
    (path : List Json.Step) : d.isSchemaPlace used path = d.isSchemaPlace written path := by
  have hm : ∀ k, d.isMixedPlace used k = d.isMixedPlace written k := fun k => by
    unfold Draft.isMixedPlace
    rw [h.isObject_eq]
  match path with
  | [] => rfl
  | .index i :: rest =>
    unfold Draft.isSchemaPlace
    exact isSchemaPlace_twin d h rest
  | [.key k] =>
    unfold Draft.isSchemaPlace
    rw [hm]
  | .key k :: s :: rest =>
    unfold Draft.isSchemaPlace
    rw [hm, isSchemaPlace_twin d h (s :: rest), isSchemaPlace_twin d h rest]

theorem scopeAt_twin (scope : Scope) (path : List Json.Step) {written used : Json}
    (h : Twin written used) : Store.scopeAt scope path used = Store.scopeAt scope path written := by
  have hr : ResourceTwin Twin ⟨scope.draft, written⟩ ⟨scope.draft, used⟩ := ⟨rfl, h⟩
  unfold Store.scopeAt
  rw [isSchemaPlace_twin _ h, enter_twin scope hr]

/-! ### Pointers -/

theorem stepOf?_twin {written used : Json} (h : Twin written used) (segment : List Char) :
    stepOf? used segment = stepOf? written segment := by
  obtain ⟨r, _, rfl⟩ := h
  unfold stepOf?
  rw [Role.isArray_used]

/-- **Pointers.** A pointer leads along the path that it spells. -/
theorem walk_leads (pointer : String) (scope : Scope) {p : Position} {written used : Json}
    (h : p.Holds written used) (seen : List Json.Step) (segments : List (List Char)) :
    Leads (fun q => ∃ steps, Spells written segments steps ∧ q = p.below steps)
      (Store.walk pointer scope written seen segments)
      (Store.walk pointer scope used seen segments) := by
  induction segments generalizing scope p written used seen with
  | nil => exact leads_ok ⟨[], .nil written, rfl⟩ (h.below (Json.at?_nil _) (Json.at?_nil _))
  | cons segment rest ih =>
    unfold Store.walk
    cases hstep : Store.pointerStep pointer written segment with
    | error e => exact leads_error
    | ok found =>
      -- The same step can be taken in both values, and the walk goes on from there.
      obtain ⟨s, w⟩ := found
      obtain ⟨hs, hw⟩ := pointerStep_eq_ok_iff.mp hstep
      obtain ⟨u, hu, hbelow⟩ := h.exists_child hw
      rw [pointerStep_eq_ok_iff.mpr ⟨(stepOf?_twin h.twin segment).trans hs, hu⟩]
      dsimp only
      rw [scopeAt_twin scope _ hbelow.twin]
      split
      · exact leads_error
      · refine (ih _ hbelow _).imp ?_
        rintro _ ⟨steps, hsteps, rfl⟩
        exact ⟨s :: steps, .cons hs hw hsteps, p.below_below [s] steps⟩

theorem atPointer_leads (fragment : List Char) (scope : Scope) {p : Position} {rw ru : Resource}
    (h : ResourceTwin p.Holds rw ru) :
    Leads (fun q => ∃ cs steps, Store.unescapeText? fragment = some cs ∧
        Spells rw.schema (Uri.splitAt '/' cs) steps ∧ q = p.below steps)
      (Store.atPointer ('/' :: fragment) scope rw)
      (Store.atPointer ('/' :: fragment) scope ru) := by
  unfold Store.atPointer
  rw [h.draft, List.drop_succ_cons, List.drop_zero]
  cases Store.unescapeText? fragment with
  | none => exact leads_error
  | some cs =>
    refine (walk_leads _ _ h.schema _ _).imp ?_
    rintro _ ⟨steps, hsteps, rfl⟩
    exact ⟨cs, steps, rfl, hsteps, rfl⟩

/-! ### Anchors -/

namespace Atlas.Charts

variable {a : Atlas} {s : Sources} {stw stu : Store}

/-- The base that the schema of a URI gives itself. -/
theorem own_eq (h : a.Charts s stw stu) (uri : String) :
    (stu.resource? uri).bind Resource.id? = (stw.resource? uri).bind Resource.id? := by
  have hr := h.resource uri
  revert hr
  generalize stw.resource? uri = rw
  generalize stu.resource? uri = ru
  intro hr
  cases hr with
  | none => rfl
  | some hr => exact hr.2.of_holds.id?_eq

/-- The same anchor at the place that the atlas gives it. -/
def Anchored (a : Atlas) (s : Sources) (w u : AnchorPlace) : Prop := AnchorTwin s (a.ofPlace w) w u

theorem anchorAt? (h : a.Charts s stw stu) (uri name : String) :
    Option.Rel (Anchored a s) (stw.anchorAt? uri name) (stu.anchorAt? uri name) := by
  have hr := h.anchor uri name
  -- What is found is known by what was looked for.
  have hfound : ∀ w, stw.anchorAt? uri name = some w → a.ofAnchor uri name = a.ofPlace w := by
    intro w hw
    have hw := List.find?_some hw
    rw [Bool.and_eq_true, beq_iff_eq, beq_iff_eq] at hw
    rw [← hw.1, ← hw.2]
    rfl
  revert hr hfound
  generalize stw.anchorAt? uri name = pw
  generalize stu.anchorAt? uri name = pu
  intro hr hfound
  cases hr with
  | none => exact .none
  | @some w u hp =>
    rw [hfound w rfl] at hp
    exact .some hp

/-- An anchor is found in both stores or in neither. -/
theorem anchor_alike (h : a.Charts s stw stu) (uri name : String) :
    Alike (Anchored a s) (stw.anchor uri name) (stu.anchor uri name) := by
  unfold Store.anchor
  rw [h.own_eq uri]
  have h₁ := h.anchorAt? uri name
  revert h₁
  generalize stw.anchorAt? uri name = pw
  generalize stu.anchorAt? uri name = pu
  intro h₁
  cases h₁ with
  | some hp => exact .ok hp
  | none =>
    dsimp only
    -- Failing that, under the base that the schema gives itself.
    have h₂ : Option.Rel (Anchored a s)
        ((((stw.resource? uri).bind Resource.id?).bind fun id =>
          (Uri.resolve Uri.rootBase id).toOption).bind fun u => stw.anchorAt? u name)
        ((((stw.resource? uri).bind Resource.id?).bind fun id =>
          (Uri.resolve Uri.rootBase id).toOption).bind fun u => stu.anchorAt? u name) := by
      cases ((stw.resource? uri).bind Resource.id?).bind fun id =>
          (Uri.resolve Uri.rootBase id).toOption with
      | none => exact .none
      | some u => exact h.anchorAt? u name
    revert h₂
    generalize (Option.bind _ fun u => stw.anchorAt? u name) = pw
    generalize (Option.bind _ fun u => stu.anchorAt? u name) = pu
    intro h₂
    cases h₂ with
    | some hp => exact .ok hp
    | none =>
      dsimp only
      split
      · exact .error _
      · exact .error _

/-- The outermost place with a dynamic anchor. -/
theorem outermost (h : a.Charts s stw stu) (name : String) (bases : List String)
    {pw pu : AnchorPlace} (hp : Anchored a s pw pu) :
    Anchored a s (stw.outermost name pw bases) (stu.outermost name pu bases) := by
  unfold Store.outermost
  induction bases generalizing pw pu with
  | nil => exact hp
  | cons base rest ih =>
    rw [List.foldl_cons, List.foldl_cons]
    refine ih ?_
    refine Alike.elim (h.anchor_alike base name) (fun _ => hp) fun qw qu hq => ?_
    dsimp only
    rw [hq.anchor]
    split
    · exact hq
    · exact hp

end Atlas.Charts

theorem atAnchor_leads {a : Atlas} {s : Sources} {stw stu : Store} (h : a.Charts s stw stu)
    (scope : Scope) (name : String) {pw pu : AnchorPlace} (hp : Atlas.Charts.Anchored a s pw pu) :
    Leads (Eq (a.ofPlace (stw.meantPlace scope name pw))) (stw.atAnchor scope name pw)
      (stu.atAnchor scope name pu) := by
  unfold Store.atAnchor Store.meantPlace
  rw [hp.anchor]
  split
  · have ho := (h.outermost name scope.outer hp).resource
    dsimp only
    rw [enter_twin scope ho.of_holds]
    split
    · exact leads_error
    · exact leads_ok rfl ho.schema
  · rw [hp.resource.draft]
    exact leads_ok rfl hp.resource.schema

/-! ### References -/

/-- Twins choose the same groups of keywords, if they are meta-schemas. -/
theorem ofMetaSchema?_twin {written used : Json} (h : Twin written used) :
    Vocabularies.ofMetaSchema? used = Vocabularies.ofMetaSchema? written := by
  obtain ⟨r, _, rfl⟩ := h
  unfold Vocabularies.ofMetaSchema?
  rw [Role.text_get?_used, Role.get?_used r (.inl (by decide))]
  cases written.get? "$vocabulary" with
  | none => rfl
  | some v =>
    rw [Option.map_some]
    generalize r.child (.key "$vocabulary") v = r'
    -- Tightening may close a value that looks like a schema, but it invents no vocabulary.
    have hchosen : ∀ (vs : Vocabulary) (uri : String), uri ∈ vs.uris →
        ((r'.used v).get? uri == some (.bool true)) = (v.get? uri == some (.bool true)) := by
      intro vs uri hu
      refine r'.get?_used_eq_bool v ?_ true
      rintro rfl
      revert hu
      cases vs <;> decide
    cases (written.get? "$id").bind Json.text? with
    | none => rfl
    | some id =>
      cases v with
      | obj ms =>
        rw [Role.used_obj] at hchosen ⊢
        refine congrArg some (congrArg Vocabularies.mk (List.filter_congr fun vs _ => ?_))
        refine congrArg not (Bool.eq_iff_iff.mpr ?_)
        rw [List.any_eq_true, List.any_eq_true]
        exact exists_congr fun uri => and_congr_right fun hu => Bool.eq_iff_iff.mp (hchosen vs uri hu)
      | arr xs =>
        rw [Role.used_arr]
      | _ => rw [Role.used_scalar r' rfl rfl]

section

variable {a : Atlas} {s : Sources} {stw stu : Store}

/-- Twins are read with the same groups of keywords. -/
theorem vocabularies_twin (h : a.Charts s stw stu) (d : Draft) {written used : Json}
    (ht : Twin written used) : stu.vocabularies d used = stw.vocabularies d written := by
  have hd : d.detect used = d.detect written := by
    obtain ⟨r, _, rfl⟩ := ht
    exact r.detect_used d written
  unfold Store.vocabularies
  rw [hd]
  cases d.detect written with
  | ok d => rfl
  | error uri =>
    dsimp only
    cases (Uri.resolve Uri.rootBase uri).toOption with
    | none => rfl
    | some u =>
      simp only [Option.bind_some]
      have hr := h.resource u
      revert hr
      generalize stw.resource? u = rw
      generalize stu.resource? u = ru
      intro hr
      cases hr with
      | none => rfl
      | some hr => exact congrArg (Option.getD · .full) (ofMetaSchema?_twin hr.2.schema.twin)

/-- **Texts.** The position that the text of a reference means is where it is looked up. -/
theorem locate_leads (h : a.Charts s stw stu) (scope : Scope) (text : String) :
    Leads (Denotes a stw scope text) (stw.locate scope text) (stu.locate scope text) := by
  unfold Store.locate
  cases hdivide : Store.divide scope.base text with
  | error e => exact leads_error
  | ok found =>
    obtain ⟨uri, fragment⟩ := found
    dsimp only
    have hr := h.resource uri
    revert hr
    generalize hw : stw.resource? uri = rw
    generalize stu.resource? uri = ru
    intro hr
    cases hr with
    | none => exact leads_error
    | some hr =>
      obtain ⟨_, hr⟩ := hr
      dsimp only
      split
      · rw [hr.draft]
        exact leads_ok (.whole hdivide) hr.schema
      · next fragment =>
        refine (atPointer_leads fragment _ hr).imp ?_
        rintro _ ⟨cs, steps, hcs, hsteps, rfl⟩
        exact .pointer hdivide hw hcs hsteps
      · next hnil hpointer =>
        obtain ⟨c, cs, rfl⟩ := List.exists_cons_of_ne_nil hnil
        have hc : c ≠ '/' := fun he => hpointer cs (by rw [he])
        refine Alike.elim (h.anchor_alike uri (String.ofList (c :: cs))).source
          (fun e => leads_error) fun pw pu ⟨hp, hplace⟩ => ?_
        refine (atAnchor_leads h _ _ hp).imp ?_
        rintro _ rfl
        exact .anchor hdivide hc hplace

/-- Looking up adds to the scope what groups of keywords are read, and they are the same. -/
theorem lookup_leads (h : a.Charts s stw stu) (scope : Scope) (text : String) :
    Leads (Denotes a stw scope text) (stw.lookup scope text) (stu.lookup scope text) := by
  intro t ht
  unfold Store.lookup at ht ⊢
  cases hw : stw.locate scope text with
  | error e =>
    rw [hw] at ht
    cases ht
  | ok found =>
    rw [hw] at ht
    obtain ⟨p, u, hp, hholds, hu⟩ := locate_leads h scope text found hw
    cases ht
    refine ⟨p, u, hp, hholds, ?_⟩
    rw [hu, Except.map, vocabularies_twin h _ hholds.twin]

theorem isRecursive_twin {written used : Json} (h : Twin written used) :
    Store.isRecursive used = Store.isRecursive written := by
  obtain ⟨r, _, rfl⟩ := h
  exact r.get?_used_eq_bool written (by decide) true

/-- Where going outward ends at a schema, it takes the same way in both stores. -/
theorem outwardText_eq (h : a.Charts s stw stu) (scope : Scope) (bases : List String)
    {text : String} {t : Target}
    (ht : stw.lookup scope (stw.outwardText scope text bases) = .ok t) :
    stu.outwardText scope text bases = stw.outwardText scope text bases := by
  induction bases generalizing text with
  | nil => rfl
  | cons base rest ih =>
    unfold Store.outwardText at ht ⊢
    cases hw : stw.lookup scope base with
    | error e =>
      simp only [hw, reduceCtorEq] at ht
    | ok found =>
      obtain ⟨p, u, _, hholds, hu⟩ := lookup_leads h scope base found hw
      rw [hw] at ht
      rw [hu]
      dsimp only at ht ⊢
      rw [isRecursive_twin hholds.twin]
      split
      · next hrec =>
        rw [if_pos hrec] at ht
        exact ih ht
      · rfl

/-- Recursive references that mean a schema are looked up by the same text. -/
theorem recursiveText_eq (h : a.Charts s stw stu) (scope : Scope) {t : Target}
    (ht : stw.lookup scope (stw.recursiveText scope) = .ok t) :
    stu.recursiveText scope = stw.recursiveText scope := by
  unfold Store.recursiveText at ht ⊢
  cases hw : stw.lookup scope "#" with
  | error e =>
    simp only [hw, reduceCtorEq] at ht
  | ok found =>
    obtain ⟨p, u, _, hholds, hu⟩ := lookup_leads h scope "#" found hw
    rw [hw] at ht
    rw [hu]
    dsimp only at ht ⊢
    rw [isRecursive_twin hholds.twin]
    split
    · next hrec =>
      rw [if_pos hrec] at ht
      exact outwardText_eq h scope scope.outer ht
    · rfl

/-! ### What a reference means -/

/-- A reference leads to itself for twins at once. -/
theorem isLoop_twin (r : Reference) {written used : Json} (h : Twin written used) :
    r.isLoop used = r.isLoop written := by
  have hstr : ∀ (j : Json) (text : String),
      (j.get? r.keyword == some (.str text)) = ((j.get? r.keyword).bind Json.text? == some text) := by
    intro j text
    cases j.get? r.keyword with
    | none => rfl
    | some v =>
      rw [Bool.eq_iff_iff, beq_iff_eq, beq_iff_eq]
      cases v <;> simp [Json.text?]
  obtain ⟨role, _, rfl⟩ := h
  unfold Reference.isLoop
  simp only [hstr, Role.text_get?_used]

theorem find_leads (h : a.Charts s stw stu) (r : Reference) :
    Leads (Means a stw r) (stw.find r) (stu.find r) := by
  rw [stw.find_eq, stu.find_eq]
  intro t ht
  have hsaid : r.said stu = r.said stw := by
    unfold Reference.said at ht ⊢
    cases htext : r.text with
    | none =>
      rw [htext] at ht
      exact recursiveText_eq h r.scope ht
    | some text => rfl
  rw [hsaid]
  exact lookup_leads h r.scope (r.said stw) t ht

/-- **What a reference means.** Among written schemas it means what stands at the position that it
means by its text, and among what became of them it means what stands there then; or it leads to
itself in both. -/
theorem target_leads (h : a.Charts s stw stu) (r : Reference) {t : Option Target}
    (ht : stw.target r = .ok t) :
    (t = none ∧ stu.target r = .ok none) ∨
      ∃ scope w p u, t = some ⟨scope, w⟩ ∧ Means a stw r p ∧ p.Holds w u ∧
        stu.target r = .ok (some ⟨scope, u⟩) := by
  unfold Store.target at ht ⊢
  cases hf : stw.find r with
  | error e =>
    rw [hf] at ht
    cases ht
  | ok found =>
    obtain ⟨p, u, hp, hholds, hu⟩ := find_leads h r found hf
    rw [hf] at ht
    rw [hu]
    simp only [Except.map, Except.ok.injEq] at ht ⊢
    rw [isLoop_twin r hholds.twin]
    by_cases hloop : r.isLoop found.schema = true
    · rw [if_pos hloop] at ht ⊢
      exact .inl ⟨ht.symm, rfl⟩
    · rw [if_neg hloop] at ht ⊢
      exact .inr ⟨found.scope, found.schema, p, u, ht.symm, hp, hholds, rfl⟩

end

end DocCheck.Schema
