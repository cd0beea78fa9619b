import DocCheck.Proofs.Tighten.Position
import Mathlib.Data.Option.Basic

/-!
# Collecting twins

Collecting what a schema refers to goes the same way for written schemas and for what they become:
the same references are met in the same order, the same URIs are read, the same errors end it. So
in the two stores that come out of it a URI names what stands at the same position of what was read.

* `Alike` — two computations that fail in the same way or give related values;
* `StoreTwin` — stores in which the same URIs and anchors name what stands at the same positions;
* `collect_twin` — collecting gives such stores.
-/

namespace DocCheck.Schema

/-! ### Computations that go the same way -/

/-- Two computations that fail in the same way or give related values. -/
inductive Alike {ε α β : Type} (R : α → β → Prop) : Except ε α → Except ε β → Prop where
  /-- Both fail. -/
  | error (e : ε) : Alike R (.error e) (.error e)
  /-- Both give a value. -/
  | ok {a : α} {b : β} (h : R a b) : Alike R (.ok a) (.ok b)

namespace Alike

variable {ε α β γ δ : Type} {R : α → β → Prop} {S : γ → δ → Prop}

/-- What holds of equal failures and of related values holds of both computations. -/
@[elab_as_elim]
theorem elim {motive : Except ε α → Except ε β → Prop} {x : Except ε α} {y : Except ε β}
    (h : Alike R x y) (error : ∀ e, motive (.error e) (.error e))
    (ok : ∀ a b, R a b → motive (.ok a) (.ok b)) : motive x y := by
  cases h with
  | error e => exact error e
  | ok hab => exact ok _ _ hab

theorem bind {x : Except ε α} {y : Except ε β} {f : α → Except ε γ} {g : β → Except ε δ}
    (h : Alike R x y) (hfg : ∀ a b, R a b → Alike S (f a) (g b)) : Alike S (x >>= f) (y >>= g) := by
  cases h with
  | error e => exact .error e
  | ok hab => exact hfg _ _ hab

theorem map {x : Except ε α} {y : Except ε β} {f : α → γ} {g : β → δ} (h : Alike R x y)
    (hfg : ∀ a b, R a b → S (f a) (g b)) : Alike S (x.map f) (y.map g) := by
  cases h with
  | error e => exact .error e
  | ok hab => exact .ok (hfg _ _ hab)

theorem of_eq {x y : Except ε α} (h : x = y) : Alike Eq x y := by
  subst h
  cases x with
  | error e => exact .error e
  | ok a => exact .ok rfl

/-- The related values are those that the computations give. -/
theorem source {x : Except ε α} {y : Except ε β} (h : Alike R x y) :
    Alike (fun a b => R a b ∧ x = .ok a) x y := by
  cases h with
  | error e => exact .error e
  | ok hab => exact .ok ⟨hab, rfl⟩

/-- Going through related lists step by step. -/
theorem mapM {xs : List α} {ys : List β} {f : α → Except ε γ} {g : β → Except ε δ}
    (h : List.Forall₂ R xs ys) (hfg : ∀ a b, R a b → Alike S (f a) (g b)) :
    Alike (List.Forall₂ S) (xs.mapM f) (ys.mapM g) := by
  induction h with
  | nil => exact .ok .nil
  | cons hab _ ih =>
    rw [List.mapM_cons, List.mapM_cons]
    refine (hfg _ _ hab).bind fun c d hcd => ih.bind fun cs ds hs => ?_
    exact .ok (.cons hcd hs)

end Alike

/-! ### Stores and collections -/

/-- Related schemas for the same draft. -/
structure ResourceTwin (R : Json → Json → Prop) (written used : Resource) : Prop where
  /-- The draft is the same. -/
  draft : used.draft = written.draft
  /-- The schemas are related. -/
  schema : R written.schema used.schema

/-- The same URI for what stands at a position that it may stand for. -/
def NamedTwin (s : Sources) (written used : String × Resource) : Prop :=
  used.1 = written.1 ∧ ∃ p, s.Names written.1 p ∧ ResourceTwin p.Holds written.2 used.2

/-- The same anchor of what stands at a position that sets it. -/
structure AnchorTwin (s : Sources) (p : Position) (written used : AnchorPlace) : Prop where
  /-- The URI is the same. -/
  base : used.base = written.base
  /-- The anchor is the same. -/
  anchor : used.anchor = written.anchor
  /-- The position sets it. -/
  sets : s.Sets written.anchor p
  /-- The schemas stand there. -/
  resource : ResourceTwin p.Holds written.resource used.resource

/-- Stores with what stands at the same positions. -/
structure StoreTwin (s : Sources) (written used : Store) : Prop where
  /-- The schemas of URIs. -/
  resources : List.Forall₂ (NamedTwin s) written.resources used.resources
  /-- The anchors. -/
  anchors : List.Forall₂ (fun w u => ∃ p, AnchorTwin s p w u) written.anchors used.anchors

/-- The same base for what stands at the same position of a document that was read. -/
def QueuedTwin (s : Sources) (written used : String × Resource) : Prop :=
  used.1 = written.1 ∧ ResourceTwin s.Held written.2 used.2

/-- Collections that are equally far, with what stands at the same positions. -/
structure CollectionTwin (s : Sources) (written used : Collection) : Prop where
  /-- The stores. -/
  store : StoreTwin s written.store used.store
  /-- The same references were met. -/
  met : used.met = written.met
  /-- What is still to be looked at. -/
  queue : List.Forall₂ (QueuedTwin s) written.queue used.queue
  /-- The same URIs were read. -/
  read : used.read = written.read

theorem ResourceTwin.imp {R S : Json → Json → Prop} (hRS : ∀ w u, R w u → S w u)
    {written used : Resource} (h : ResourceTwin R written used) : ResourceTwin S written used :=
  ⟨h.draft, hRS _ _ h.schema⟩

theorem ResourceTwin.id?_eq {written used : Resource} (h : ResourceTwin Twin written used) :
    used.id? = written.id? := by
  obtain ⟨r, _, hr⟩ := h.schema
  unfold Resource.id?
  rw [h.draft, hr, Role.id?_used]

theorem ResourceTwin.of_holds {p : Position} {written used : Resource}
    (h : ResourceTwin p.Holds written used) : ResourceTwin Twin written used :=
  h.imp fun _ _ => Position.Holds.twin

namespace StoreTwin

variable {s : Sources} {written used : Store}

theorem add (h : StoreTwin s written used) {uri : String} {p : Position} (hp : s.Names uri p)
    {rw ru : Resource} (hr : ResourceTwin p.Holds rw ru) :
    StoreTwin s (written.add uri rw) (used.add uri ru) :=
  ⟨.cons ⟨rfl, p, hp, hr⟩ h.resources, h.anchors⟩

/-- The anchors of what stands at a position are set there. -/
theorem addAnchors (h : StoreTwin s written used) (uri : String) {p : Position} {rw ru : Resource}
    (hr : ResourceTwin p.Holds rw ru) (hp : ∀ a ∈ rw.draft.anchors rw.schema, s.Sets a p) :
    StoreTwin s (written.addAnchors uri rw) (used.addAnchors uri ru) := by
  refine ⟨h.resources, List.rel_append (List.forall₂_reverse_iff.mpr ?_) h.anchors⟩
  have ha : ru.draft.anchors ru.schema = rw.draft.anchors rw.schema := by
    rw [hr.draft, hr.schema.used_eq, Role.anchors_used]
  rw [ha, List.forall₂_map_left_iff, List.forall₂_map_right_iff, List.forall₂_same]
  exact fun a ha => ⟨p, rfl, rfl, hp a ha, hr⟩

/-- Meta-schemas, which are used as they were written, are put into both stores. -/
theorem foldl_add {rs : List Resource}
    (hrs : ∀ r ∈ rs, r ∈ Store.metaSchemas ∧ r.schema.SortedKeys)
    (h : StoreTwin s written used) :
    StoreTwin s (rs.foldl Store.addNamed written) (rs.foldl Store.addNamed used) := by
  induction rs generalizing written used with
  | nil => exact h
  | cons r rest ih =>
    rw [List.forall_mem_cons] at hrs
    obtain ⟨⟨hmem, hsorted⟩, hrest⟩ := hrs
    have hr : ResourceTwin (Position.mk r.schema false []).Holds r r := ⟨rfl, hsorted, rfl, rfl⟩
    refine ih hrest ?_
    unfold Store.addNamed
    cases hid : r.id? with
    | some uri => exact (h.add (.metaSchema hmem hid) hr).addAnchors _ hr fun a ha =>
        .metaSchema hmem ha
    | none => exact h

theorem sortedKeys_metaSchemas : ∀ r ∈ Store.metaSchemas, r.schema.SortedKeys := by
  decide +kernel

theorem standard : StoreTwin s .standard .standard :=
  foldl_add (fun r hr => ⟨hr, sortedKeys_metaSchemas r hr⟩) ⟨.nil, .nil⟩

end StoreTwin

/-! ### References -/

theorem note_false (base : String) (fuel : Nat) (met : Met) :
    Met.note base fuel (.bool false) met = .ok met := by
  cases fuel <;> rfl

/-- **References.** Twins refer to the same, wherever their references lead. -/
theorem note_twin (base : String) (fuel : Nat) {written used : Json} (h : Twin written used)
    (met : Met) : Met.note base fuel used met = Met.note base fuel written met := by
  induction fuel generalizing written used met with
  | zero => rfl
  | succ fuel ih =>
    have htexts : (["$ref", "$schema"].filterMap fun k => (used.get? k).bind Json.text?) =
        ["$ref", "$schema"].filterMap fun k => (written.get? k).bind Json.text? := by
      obtain ⟨r, _, rfl⟩ := h
      simp only [Role.text_get?_used]
    unfold Met.note
    dsimp only
    rw [htexts]
    congr 1
    funext met text
    -- Only a reference into the schema itself looks at more than texts.
    have hfound := Twin.inherits.fragmentValue? h (text.toList.dropWhile (· == '#'))
    refine FoundTwin.elim hfound rfl ?_ ?_
    · simp only [note_false]
    · intro w u ht
      simp only [ih ht]

theorem ofSchema_twin (base : String) {written used : Json} (h : Twin written used) (met : Met) :
    met.ofSchema base used = met.ofSchema base written := by
  have ho : used.objects = written.objects := by
    obtain ⟨r, _, rfl⟩ := h
    exact r.objects_used written
  unfold Met.ofSchema
  rw [ho, note_twin base _ h]

/-! ### Looking at schemas -/

/-- The draft of twins is the same, or unknown for both. -/
theorem resourceOf_twin {R : Json → Json → Prop} (hR : ∀ {w u : Json}, R w u → Twin w u) (d : Draft)
    {written used : Json} (h : R written used) :
    Alike (ResourceTwin R) (Collection.resourceOf d written) (Collection.resourceOf d used) := by
  obtain ⟨r, _, hu⟩ := hR h
  unfold Collection.resourceOf
  rw [hu, Role.detect_used, ← hu]
  cases d.detect written with
  | error uri => exact .error _
  | ok d => exact .ok ⟨rfl, h⟩

theorem subresources_twin {R : Json → Json → Prop} (hR : Inherits R) {rw ru : Resource}
    (h : ResourceTwin R rw ru) :
    Alike (List.Forall₂ (ResourceTwin R)) (Collection.subresources rw)
      (Collection.subresources ru) := by
  unfold Collection.subresources
  rw [h.draft]
  exact .mapM (hR.subschemas rw.draft h.schema) fun _ _ ht => resourceOf_twin hR.twin rw.draft ht

theorem baseInside_twin (base : String) {rw ru : Resource} (h : ResourceTwin Twin rw ru) :
    Collection.baseInside base ru = Collection.baseInside base rw := by
  unfold Collection.baseInside
  rw [h.id?_eq]

variable {s : Sources}

/-- The base inside a schema with a name of its own stands for it. -/
theorem names_baseInside {p : Position} (hp : s.Has p) {r : Resource}
    (hr : p.document.at? p.path = some r.schema) (hid : r.id?.isSome) {base base' : String}
    (hb : Collection.baseInside base r = .ok base') : s.Names base' p := by
  obtain ⟨id, hid⟩ := Option.isSome_iff_exists.mp hid
  unfold Collection.baseInside at hb
  rw [hid] at hb
  dsimp only at hb
  split at hb
  · cases hb
  · next uri hu =>
    cases hb
    exact .itself hp hr hid hu

/-- **Looking.** Looking at what stands at the same position goes the same way. -/
theorem look_twin {cw cu : Collection} (hc : CollectionTwin s cw cu) (base : String)
    {rw ru : Resource} (hr : ResourceTwin s.Held rw ru) :
    Alike (CollectionTwin s) (cw.look base rw) (cu.look base ru) := by
  have htwin : ResourceTwin Twin rw ru := hr.imp fun _ _ => s.held_inherits.twin
  obtain ⟨p, hp, hholds⟩ := hr.schema
  have hres : ResourceTwin p.Holds rw ru := ⟨hr.draft, hholds⟩
  unfold Collection.look
  rw [baseInside_twin base htwin]
  refine (Alike.of_eq rfl).source.bind fun base' _ ⟨rfl, hbase⟩ => ?_
  rw [hc.met, ofSchema_twin base' htwin.schema, htwin.id?_eq]
  refine (Alike.of_eq rfl).bind fun met _ hm => ?_
  subst hm
  -- The store gets the schema under its base, and the queue gets its subschemas.
  refine (subresources_twin s.held_inherits hr).bind fun sw su hs => .ok ⟨?_, rfl, ?_, hc.read⟩
  · have hsets : ∀ a ∈ rw.draft.anchors rw.schema, s.Sets a p := fun a ha =>
      .schema hp hholds.at?_written ha
    split
    · next hid =>
      have hnames := names_baseInside hp hholds.at?_written hid hbase
      exact (hc.store.add hnames hres).addAnchors base' hres hsets
    · exact hc.store.addAnchors base' hres hsets
  · refine List.rel_append hc.queue ?_
    rw [List.forall₂_map_left_iff, List.forall₂_map_right_iff]
    exact hs.imp fun _ _ h => ⟨rfl, h⟩

/-- Looking at everything in the queue goes the same way. -/
theorem drain_twin (fuel : Nat) {cw cu : Collection} (hc : CollectionTwin s cw cu) :
    Alike (CollectionTwin s) (cw.drain fuel) (cu.drain fuel) := by
  induction fuel generalizing cw cu with
  | zero => exact .ok hc
  | succ fuel ih =>
    have hq := hc.queue
    unfold Collection.drain
    revert hq
    generalize cw.queue = qw
    generalize cu.queue = qu
    intro hq
    cases hq with
    | nil => exact .ok hc
    | @cons pw pu restw restu hp hrest =>
      obtain ⟨hbase, hr⟩ := hp
      dsimp only
      rw [hbase]
      have hstep : CollectionTwin s { cw with queue := restw } { cu with queue := restu } :=
        ⟨hc.store, hc.met, hrest, hc.read⟩
      exact Alike.elim (look_twin hstep pw.1 hr) (fun e => .error e) fun _ _ hc => ih hc

theorem queued_twin {cw cu : Collection} (hc : CollectionTwin s cw cu) : cu.queued = cw.queued := by
  have hq := hc.queue
  unfold Collection.queued
  revert hq
  generalize cw.queue = qw
  generalize cu.queue = qu
  intro hq
  induction hq with
  | nil => rfl
  | cons hp _ ih =>
    obtain ⟨r, _, hu⟩ := s.held_inherits.twin hp.2.schema
    rw [List.foldr_cons, List.foldr_cons, ih, hu, Role.objects_used]

/-! ### Reading -/

/-- The schema of a URI in both stores stands at a position that the URI may stand for. -/
theorem StoreTwin.resource? {stw stu : Store} (h : StoreTwin s stw stu) (uri : String) :
    Option.Rel (fun w u => ∃ p, s.Names uri p ∧ ResourceTwin p.Holds w u) (stw.resource? uri)
      (stu.resource? uri) := by
  have hr := h.resources
  unfold Store.resource?
  revert hr
  generalize stw.resources = rsw
  generalize stu.resources = rsu
  intro hr
  induction hr with
  | nil => exact .none
  | @cons pw pu _ _ hp _ ih =>
    obtain ⟨uriw, rw⟩ := pw
    obtain ⟨uriu, ru⟩ := pu
    obtain ⟨hname, hres⟩ := hp
    change uriu = uriw at hname
    subst hname
    rw [List.lookup_cons, List.lookup_cons]
    by_cases hu : (uri == uriu) = true
    · rw [hu]
      rw [beq_iff_eq] at hu
      subst hu
      exact .some hres
    · rw [Bool.not_eq_true] at hu
      rw [hu]
      exact ih

theorem StoreTwin.isSome_resource? {stw stu : Store} (h : StoreTwin s stw stu) (uri : String) :
    (stu.resource? uri).isSome = (stw.resource? uri).isSome := by
  have hr := h.resource? uri
  revert hr
  generalize stw.resource? uri = rw
  generalize stu.resource? uri = ru
  intro hr
  cases hr <;> rfl

/-- Two ways to read schemas: as they are written, and tightened. -/
def RetrieveTwin (written used : Retrieve) : Prop :=
  ∀ uri, Alike (fun w u => w.SortedKeys ∧ u = tighten w) (written uri) (used uri)

theorem named_twin {R : Json → Json → Prop} (hR : Inherits R) (d : Draft) (uri : String)
    {written used : Json} (h : R written used) :
    Alike (List.Forall₂ fun w u => u.1 = w.1 ∧ ResourceTwin R w.2 u.2)
      (Collection.named d uri written) (Collection.named d uri used) := by
  have hf : FoundTwin R ((Uri.fragment? uri).bind (fragmentValue? written))
      ((Uri.fragment? uri).bind (fragmentValue? used)) := by
    cases Uri.fragment? uri with
    | none => exact .missing
    | some fragment => exact hR.fragmentValue? h fragment
  unfold Collection.named
  refine FoundTwin.elim hf (.ok .nil) (.ok .nil) fun w u ht => ?_
  rw [Option.filter_some, Option.filter_some, (hR.twin ht).isObject_eq]
  by_cases hw : w.isObject = true
  · rw [if_pos hw, if_pos hw]
    exact (resourceOf_twin hR.twin d ht).map fun _ _ hr => .cons ⟨rfl, hr⟩ .nil
  · rw [if_neg hw, if_neg hw]
    exact .ok .nil

/-- What is read for a URI stands at the root of its document. -/
theorem receive_twin (d : Draft) {cw cu : Collection} (hc : CollectionTwin s cw cu) {uri : String}
    {written : Json} (h : s.retrieve (Uri.withoutFragment uri) = .ok written)
    (hs : written.SortedKeys) :
    Alike (CollectionTwin s) (cw.receive d uri written) (cu.receive d uri (tighten written)) := by
  have hroot := Position.holds_root hs
  have hheld : s.Held written (tighten written) := ⟨_, .file h [], hroot⟩
  unfold Collection.receive
  refine (resourceOf_twin Position.Holds.twin d hroot).bind fun rw ru hr => ?_
  refine (named_twin s.held_inherits d uri hheld).bind fun iw iu hi => .ok ⟨?_, hc.met, ?_, hc.read⟩
  · exact hc.store.add (.file h) hr
  · have hqueued : ResourceTwin s.Held rw ru := hr.imp fun _ _ hwu => ⟨_, .file h [], hwu⟩
    exact List.rel_append (List.rel_append hc.queue hi) (.cons ⟨rfl, hqueued⟩ .nil)

/-- Reading the schemas of URIs goes the same way. -/
theorem fetch_twin {ru : Retrieve} (hr : RetrieveTwin s.retrieve ru) (d : Draft)
    (uris : List String) {cw cu : Collection} (hc : CollectionTwin s cw cu) :
    Alike (CollectionTwin s) (Collection.fetch s.retrieve d uris cw)
      (Collection.fetch ru d uris cu) := by
  induction uris generalizing cw cu with
  | nil => exact .ok hc
  | cons uri rest ih =>
    unfold Collection.fetch
    dsimp only
    rw [hc.store.isSome_resource?]
    split
    · exact ih hc
    · have hread : ∀ name, CollectionTwin s { cw with read := cw.read ++ [name] }
          { cu with read := cu.read ++ [name] } := fun name =>
        ⟨hc.store, hc.met, hc.queue, by rw [hc.read]⟩
      rw [hc.read] at hread ⊢
      refine Alike.elim (hr (Uri.withoutFragment uri)).source (fun reason => .error _) ?_
      rintro w _ ⟨⟨hs, rfl⟩, hw⟩
      dsimp only
      exact Alike.elim (receive_twin d (hread _) hw hs) (fun e => .error _) fun _ _ hc => ih hc

/-- All rounds of looking and reading go the same way. -/
theorem rounds_twin {ru : Retrieve} (hr : RetrieveTwin s.retrieve ru) (d : Draft) (fuel : Nat)
    {cw cu : Collection} (hc : CollectionTwin s cw cu) :
    (Collection.rounds ru d fuel cu).1 = (Collection.rounds s.retrieve d fuel cw).1 ∧
      Alike (StoreTwin s) (Collection.rounds s.retrieve d fuel cw).2
        (Collection.rounds ru d fuel cu).2 := by
  induction fuel generalizing cw cu with
  | zero => exact ⟨hc.read, .ok hc.store⟩
  | succ fuel ih =>
    unfold Collection.rounds
    rw [queued_twin hc, hc.read]
    refine Alike.elim (drain_twin (cw.queued + 1) hc) (fun e => ⟨rfl, .error e⟩) fun cw cu hc => ?_
    dsimp only
    rw [hc.met, hc.read]
    split
    · exact ⟨rfl, .ok hc.store⟩
    -- The targets are no longer to be read, but they stay met.
    · have hmet : CollectionTwin s { cw with met := ⟨cw.met.references, []⟩ }
          { cu with met := ⟨cw.met.references, []⟩ } :=
        ⟨hc.store, rfl, hc.queue, hc.read⟩
      rw [hc.read] at hmet
      exact Alike.elim (fetch_twin hr d cw.met.targets hmet) (fun e => ⟨rfl, .error _⟩)
        fun _ _ hc => ih hc

/-- **Collecting.** What a schema refers to is collected the same way for the schema as it was
written and for the tightened one: the same URIs are read, and it fails the same way or gives stores
with what stands at the same positions. -/
theorem collect_twin {ru : Retrieve} (hr : RetrieveTwin s.retrieve ru) (hs : s.schema.SortedKeys)
    (d : Draft) :
    (collect ru s.base ⟨d, tighten s.schema⟩).1 = (collect s.retrieve s.base ⟨d, s.schema⟩).1 ∧
      Alike (StoreTwin s) (collect s.retrieve s.base ⟨d, s.schema⟩).2
        (collect ru s.base ⟨d, tighten s.schema⟩).2 := by
  have hroot := Position.holds_root hs
  have hheld : s.Held s.schema (tighten s.schema) := ⟨_, .schema [], hroot⟩
  unfold collect
  exact rounds_twin hr d roundLimit
    ⟨StoreTwin.standard.add .schema ⟨rfl, hroot⟩, rfl, .cons ⟨rfl, rfl, hheld⟩ .nil, rfl⟩

end DocCheck.Schema
