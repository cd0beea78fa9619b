import DocCheck.Proofs.Tighten.Collect
import DocCheck.Schema.Node

/-!
# The positions that references mean

A reference means a schema by a URI and by a pointer or an anchor. So its position is the one that
the URI stands for, or the one that the pointer spells from there, or the one where the anchor is
set. None of this looks at what tightening has made of the schemas.

* `Atlas`, `Atlas.Charts` — one position for each URI and each anchor of a store;
* `StoreTwin.exists_atlas` — there is one for all that is collected;
* `Spells` — the path that a pointer spells in a value;
* `Denotes`, `Means` — the position that a text and a reference mean.
-/

namespace DocCheck.Schema

open Json (lookup)

/-! ### URIs and anchors -/

/-- One position for each URI, and for each anchor below a URI. -/
structure Atlas where
  /-- The position of the schema of a URI. -/
  ofUri : String → Position
  /-- The position of the schema of an anchor below a URI. -/
  ofAnchor : String → String → Position

namespace Atlas

/-- The position of the schema of an anchor. -/
def ofPlace (a : Atlas) (place : AnchorPlace) : Position := a.ofAnchor place.base place.anchor.name

/-- An atlas of two stores: URIs and anchors may stand for the positions that it gives them, and in
both stores they name what stands there, as it was written and as it is used. -/
structure Charts (a : Atlas) (s : Sources) (written used : Store) : Prop where
  /-- The schemas of URIs. -/
  resource : ∀ uri, Option.Rel
    (fun w u => s.Names uri (a.ofUri uri) ∧ ResourceTwin (a.ofUri uri).Holds w u)
    (written.resource? uri) (used.resource? uri)
  /-- The schemas of anchors. -/
  anchor : ∀ uri name, Option.Rel (AnchorTwin s (a.ofAnchor uri name))
    (written.anchorAt? uri name) (used.anchorAt? uri name)

end Atlas

/-- The schema of a URI stands at the position that the atlas gives it, and the URI may stand for
that. -/
theorem Atlas.Charts.names {a : Atlas} {s : Sources} {written used : Store}
    (h : a.Charts s written used) {uri : String} {r : Resource}
    (hr : written.resource? uri = some r) :
    s.Names uri (a.ofUri uri) ∧ (a.ofUri uri).document.at? (a.ofUri uri).path = some r.schema := by
  have hrel := h.resource uri
  rw [hr] at hrel
  revert hrel
  generalize used.resource? uri = ru
  intro hrel
  cases hrel with
  | some hrel => exact ⟨hrel.1, hrel.2.schema.at?_written⟩

/-- One choice serves what is found, if anything is. -/
theorem exists_rel {α β γ : Type} [Inhabited α] {R : α → β → γ → Prop} {x : Option β} {y : Option γ}
    (h : Option.Rel (fun b c => ∃ a, R a b c) x y) : ∃ a, Option.Rel (R a) x y := by
  cases h with
  | none => exact ⟨default, .none⟩
  | some h =>
    obtain ⟨a, h⟩ := h
    exact ⟨a, .some h⟩

instance : Inhabited Position := ⟨.root .null⟩

/-- The place of an anchor in both stores stands at a position that sets the anchor. -/
theorem StoreTwin.anchorAt? {s : Sources} {stw stu : Store} (h : StoreTwin s stw stu)
    (uri name : String) :
    Option.Rel (fun w u => ∃ p, AnchorTwin s p w u) (stw.anchorAt? uri name)
      (stu.anchorAt? uri name) := by
  have ha := h.anchors
  unfold Store.anchorAt?
  revert ha
  generalize stw.anchors = asw
  generalize stu.anchors = asu
  intro ha
  induction ha with
  | nil => exact .none
  | @cons pw pu _ _ hp _ ih =>
    obtain ⟨p, hp⟩ := hp
    rw [List.find?_cons, List.find?_cons, hp.base, hp.anchor]
    split
    · exact .some ⟨p, hp⟩
    · exact ih

/-- **Atlases.** What is collected for a schema as it was written and for the tightened one has an
atlas. -/
theorem StoreTwin.exists_atlas {s : Sources} {written used : Store} (h : StoreTwin s written used) :
    ∃ a : Atlas, a.Charts s written used := by
  choose ofUri hresource using fun uri => exists_rel (h.resource? uri)
  choose ofAnchor hanchor using fun uri name => exists_rel (h.anchorAt? uri name)
  exact ⟨⟨ofUri, ofAnchor⟩, hresource, hanchor⟩

/-! ### Pointers -/

/-- The step that a segment of a pointer stands for: to an item of an array, by its index, and
otherwise to a member, by its key. -/
def stepOf? (value : Json) (segment : List Char) : Option Json.Step :=
  if value.isArray then (Json.Pointer.toIndex? segment).map .index
  else some (.key (String.ofList (Json.Pointer.unescapePairs segment)))

/-- **Spelling.** The path that the segments of a pointer spell from a value on. -/
inductive Spells : Json → List (List Char) → List Json.Step → Prop where
  /-- No segments. -/
  | nil (value : Json) : Spells value [] []
  /-- A segment, and others from where its step leads. -/
  | cons {value next : Json} {segment : List Char} {s : Json.Step} {rest : List (List Char)}
    {steps : List Json.Step} (hs : stepOf? value segment = some s)
    (hnext : value.child? s = some next) (h : Spells next rest steps) :
    Spells value (segment :: rest) (s :: steps)

/-- Following a segment of a pointer is taking the step that it stands for. -/
theorem pointerStep_eq_ok_iff {pointer : String} {value next : Json} {segment : List Char}
    {s : Json.Step} : Store.pointerStep pointer value segment = .ok (s, next) ↔
      stepOf? value segment = some s ∧ value.child? s = some next := by
  have hfound : ∀ (step : Json.Step) (found : Option Json)
      {x : Except ReferenceError (Json.Step × Json)},
      (found = none → x = .error (.noPointer pointer)) →
      (∀ v, found = some v → x = .ok (step, v)) →
      (x = .ok (s, next) ↔ some step = some s ∧ found = some next) := by
    intro step found x hnone hsome
    cases found with
    | none =>
      rw [hnone rfl]
      simp
    | some v =>
      rw [hsome v rfl]
      simp
  -- The step is known before it is looked where it leads.
  have hstep : ∀ {step : Json.Step}, some step = some s ∧ value.child? step = some next ↔
      some step = some s ∧ value.child? s = some next := by
    intro step
    refine and_congr_right fun h => ?_
    rw [Option.some.inj h]
  cases value with
  | arr xs =>
    unfold Store.pointerStep stepOf?
    cases Json.Pointer.toIndex? segment with
    | none => simp [Json.isArray]
    | some i =>
      refine (hfound (.index i) xs[i]? (fun h => ?_) fun v h => ?_).trans hstep
      · simp only [h]
      · simp only [h]
  | obj ms =>
    refine (hfound (.key _) (lookup _ ms) (fun h => ?_) fun v h => ?_).trans hstep
    · simp only [Store.pointerStep, Json.get?, h]
    · simp only [Store.pointerStep, Json.get?, h]
  | _ =>
    refine (hfound (.key _) none (fun _ => rfl) fun v h => ?_).trans hstep
    cases h

/-- A pointer spells one path. -/
theorem Spells.unique {value : Json} {segments : List (List Char)} {steps steps' : List Json.Step}
    (h : Spells value segments steps) (h' : Spells value segments steps') : steps = steps' := by
  induction h generalizing steps' with
  | nil =>
    cases h'
    rfl
  | @cons _ next _ s _ _ hs hnext _ ih =>
    obtain _ | ⟨hs', hnext', h'⟩ := h'
    obtain rfl := Option.some.inj (hs.symm.trans hs')
    obtain rfl := Option.some.inj (hnext.symm.trans hnext')
    rw [ih h']

/-! ### References -/

/-- The place that an anchor means that was found at some place. A dynamic one may have been taken
over. -/
def Store.meantPlace (st : Store) (scope : Scope) (name : String) (place : AnchorPlace) :
    AnchorPlace :=
  if place.anchor.isDynamic then st.outermost name place scope.outer else place

/-- **Texts.** The position that the text of a reference means, where it stands in a scope. -/
inductive Denotes (a : Atlas) (st : Store) (scope : Scope) (text : String) : Position → Prop where
  /-- A URI alone means the whole schema that it names. -/
  | whole {uri : String} (h : Store.divide scope.base text = .ok (uri, [])) :
    Denotes a st scope text (a.ofUri uri)
  /-- A pointer means the place that it spells in the schema of the URI. -/
  | pointer {uri : String} {fragment cs : List Char} {r : Resource} {steps : List Json.Step}
    (h : Store.divide scope.base text = .ok (uri, '/' :: fragment))
    (hr : st.resource? uri = some r) (hcs : Store.unescapeText? fragment = some cs)
    (hsteps : Spells r.schema (Uri.splitAt '/' cs) steps) :
    Denotes a st scope text ((a.ofUri uri).below steps)
  /-- An anchor means the place where it is set. -/
  | anchor {uri : String} {c : Char} {fragment : List Char} {place : AnchorPlace}
    (h : Store.divide scope.base text = .ok (uri, c :: fragment)) (hc : c ≠ '/')
    (hplace : st.anchor uri (String.ofList (c :: fragment)) = .ok place) :
    Denotes a st scope text
      (a.ofPlace (st.meantPlace (scope.moveTo uri) (String.ofList (c :: fragment)) place))

/-- A text means one position. -/
theorem Denotes.unique {a : Atlas} {st : Store} {scope : Scope} {text : String} {p p' : Position}
    (h : Denotes a st scope text p) (h' : Denotes a st scope text p') : p = p' := by
  -- Its fragment says in which of the three ways it is read.
  cases h with
  | whole hd =>
    cases h' with
    | whole hd' =>
      cases hd.symm.trans hd'
      rfl
    | pointer hd' => cases hd.symm.trans hd'
    | anchor hd' => cases hd.symm.trans hd'
  | pointer hd hr hcs hsteps =>
    cases h' with
    | whole hd' => cases hd.symm.trans hd'
    | pointer hd' hr' hcs' hsteps' =>
      cases hd.symm.trans hd'
      cases hr.symm.trans hr'
      cases hcs.symm.trans hcs'
      rw [hsteps.unique hsteps']
    | anchor hd' hc =>
      cases hd.symm.trans hd'
      exact absurd rfl hc
  | anchor hd hc hplace =>
    cases h' with
    | whole hd' => cases hd.symm.trans hd'
    | pointer hd' =>
      cases hd.symm.trans hd'
      exact absurd rfl hc
    | anchor hd' _ hplace' =>
      cases hd.symm.trans hd'
      cases hplace.symm.trans hplace'
      rfl

namespace Store

/-- The text by which a recursive reference ends up, having come from another text. -/
def outwardText (st : Store) (scope : Scope) (text : String) : List String → String
  | [] => text
  | base :: rest =>
    match st.lookup scope base with
    | .error _ => base
    | .ok t => if isRecursive t.schema then outwardText st scope base rest else text

/-- The text that does what a recursive reference does. -/
def recursiveText (st : Store) (scope : Scope) : String :=
  match st.lookup scope "#" with
  | .error _ => "#"
  | .ok t => if isRecursive t.schema then st.outwardText scope "#" scope.outer else "#"

theorem lookupOutward_eq (st : Store) (scope : Scope) (bases : List String) {text : String}
    {found : Target} (h : st.lookup scope text = .ok found) :
    st.lookupOutward scope found bases = st.lookup scope (st.outwardText scope text bases) := by
  induction bases generalizing text found with
  | nil => exact h.symm
  | cons base rest ih =>
    unfold lookupOutward outwardText
    cases hl : st.lookup scope base with
    | error e => exact hl.symm
    | ok t =>
      dsimp only
      split
      · exact ih hl
      · exact h.symm

/-- A recursive reference is a reference by some text. -/
theorem lookupRecursive_eq (st : Store) (scope : Scope) :
    st.lookupRecursive scope = st.lookup scope (st.recursiveText scope) := by
  unfold lookupRecursive recursiveText
  cases hl : st.lookup scope "#" with
  | error e => exact hl.symm
  | ok t =>
    dsimp only
    split
    · exact st.lookupOutward_eq scope scope.outer hl
    · exact hl.symm

end Store

/-- The text by which a reference is looked up. -/
def Reference.said (r : Reference) (st : Store) : String := r.text.getD (st.recursiveText r.scope)

theorem Store.find_eq (st : Store) (r : Reference) : st.find r = st.lookup r.scope (r.said st) := by
  unfold Store.find Reference.said
  cases r.text with
  | none => exact st.lookupRecursive_eq r.scope
  | some text => rfl

/-- **References.** The position that a reference means. -/
def Means (a : Atlas) (st : Store) (r : Reference) : Position → Prop :=
  Denotes a st r.scope (r.said st)

end DocCheck.Schema
