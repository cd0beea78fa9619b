import DocCheck.Schema.Rule
import Mathlib.Data.List.Forall2

/-!
# Stricter rules

A rule is stricter than another one if whatever passes it passes the other one, and it has looked at
no more. The second half is needed for the first: a member that a stricter rule has not looked at
may be refused by the keywords that speak of what nothing has looked at.

Most kinds of rules become stricter with their parts. Those that ask that a part does not hold, or
that count the parts that do, become stricter only if the parts go on accepting the same values.

* `Coverage.Within` — covering no more;
* `Rule.Stricter` — the relation;
* `Rule.Stricter.allOf`, `Rule.Stricter.negation`, … — one for each kind of rule.
-/

namespace DocCheck.Schema

/-! ### Covering no more -/

namespace Coverage

/-- Everything that the first covers the second covers. -/
structure Within (a b : Coverage) : Prop where
  /-- The members. -/
  names : a.names ⊆ b.names
  /-- The items. -/
  items : a.items ⊆ b.items

theorem Within.refl (a : Coverage) : a.Within a := ⟨List.Subset.refl _, List.Subset.refl _⟩

theorem Within.trans {a b c : Coverage} (h : a.Within b) (h' : b.Within c) : a.Within c :=
  ⟨List.Subset.trans h.names h'.names, List.Subset.trans h.items h'.items⟩

theorem nothing_within (a : Coverage) : nothing.Within a := ⟨List.nil_subset _, List.nil_subset _⟩

theorem within_union_left (a b : Coverage) : a.Within (a.union b) :=
  ⟨List.subset_append_left _ _, List.subset_append_left _ _⟩

theorem within_union_right (a b : Coverage) : b.Within (a.union b) :=
  ⟨List.subset_append_right _ _, List.subset_append_right _ _⟩

theorem union_within {a b c : Coverage} (ha : a.Within c) (hb : b.Within c) : (a.union b).Within c :=
  ⟨List.append_subset.mpr ⟨ha.names, hb.names⟩, List.append_subset.mpr ⟨ha.items, hb.items⟩⟩

theorem Within.union {a b c d : Coverage} (h : a.Within b) (h' : c.Within d) :
    (a.union c).Within (b.union d) :=
  union_within (h.trans (within_union_left _ _)) (h'.trans (within_union_right _ _))

theorem unions_within {cs : List Coverage} {c : Coverage} (h : ∀ a ∈ cs, a.Within c) :
    (unions cs).Within c := by
  induction cs with
  | nil => exact nothing_within c
  | cons a rest ih =>
    rw [List.forall_mem_cons] at h
    exact union_within h.1 (ih h.2)

theorem within_unions {cs : List Coverage} {c : Coverage} (h : c ∈ cs) : c.Within (unions cs) := by
  induction cs with
  | nil => exact nomatch h
  | cons a rest ih =>
    rcases List.mem_cons.mp h with rfl | hr
    · exact within_union_left _ _
    · exact (ih hr).trans (within_union_right _ _)

end Coverage

/-- Where two lists are in step, everything in the second one has its like in the first. -/
theorem exists_of_mem_right {α β : Type} {R : α → β → Prop} {as : List α} {bs : List β}
    (h : List.Forall₂ R as bs) {b : β} (hb : b ∈ bs) : ∃ a ∈ as, R a b := by
  induction h with
  | nil => exact nomatch hb
  | cons hab _ ih =>
    rcases List.mem_cons.mp hb with rfl | hr
    · exact ⟨_, List.mem_cons_self, hab⟩
    · obtain ⟨a, ha, har⟩ := ih hr
      exact ⟨a, List.mem_cons_of_mem _ ha, har⟩

theorem exists_of_mem_left {α β : Type} {R : α → β → Prop} {as : List α} {bs : List β}
    (h : List.Forall₂ R as bs) {a : α} (ha : a ∈ as) : ∃ b ∈ bs, R a b :=
  exists_of_mem_right h.flip ha

/-- Lists that are made of the same things in step are in step. -/
theorem forall₂_flatMap {α β γ : Type} {R : β → γ → Prop} {f : α → List β} {g : α → List γ}
    {xs : List α} (h : ∀ x ∈ xs, List.Forall₂ R (f x) (g x)) :
    List.Forall₂ R (xs.flatMap f) (xs.flatMap g) := by
  induction xs with
  | nil => exact .nil
  | cons x rest ih =>
    rw [List.forall_mem_cons] at h
    rw [List.flatMap_cons, List.flatMap_cons]
    exact List.rel_append h.1 (ih h.2)

namespace Rule

/-! ### The relation -/

/-- Whatever passes the first rule passes the second one, if no more has been looked at around the
first than around the second. -/
def Entails (t l : Rule) : Prop :=
  ∀ {seent seenl : Json → Coverage}, (∀ v, (seent v).Within (seenl v)) →
    ∀ v, t.faults seent v = [] → l.faults seenl v = []

/-- **Stricter rules.** The first rule refuses whatever the second one refuses, and has looked at no
more. -/
structure Stricter (t l : Rule) : Prop where
  /-- Both rules have keywords, or neither has. -/
  hasKeywords : t.hasKeywords = l.hasKeywords
  /-- What passes the first one passes the second one. -/
  entails : t.Entails l
  /-- The first one has looked at no more. -/
  coverage : ∀ v, (t.coverage v).Within (l.coverage v)

theorem accepts_iff {r : Rule} {v : Json} : r.accepts v ↔ r.apply v = [] := List.isEmpty_iff

theorem Stricter.accepts {t l : Rule} (h : t.Stricter l) {v : Json} (ht : t.accepts v) :
    l.accepts v := by
  rw [accepts_iff] at ht ⊢
  exact h.entails (fun _ => .refl _) v ht

/-! ### When there is no fault -/

@[simp] theorem under_eq_nil {keywords : List Json.Step} {fs : List Fault} :
    under keywords fs = [] ↔ fs = [] := List.map_eq_nil_iff

@[simp] theorem within_eq_nil {step : Json.Step} {keywords : List Json.Step} {fs : List Fault} :
    within step keywords fs = [] ↔ fs = [] := List.map_eq_nil_iff

@[simp] theorem demand_eq_nil {passed : Bool} {keyword : String} {v : Json} {cause : Cause} :
    demand passed keyword v cause = [] ↔ passed = true := by
  cases passed <;> simp [demand]

theorem onMember_eq_nil {entries : List (Selector × Rule)} {m : String × Json} :
    onMember entries m = [] ↔ ∀ e ∈ entries, e.1.selects m.1 → e.2.accepts m.2 := by
  unfold onMember
  rw [List.flatMap_eq_nil_iff]
  simp only [List.mem_filter, within_eq_nil, accepts_iff, and_imp]

theorem select_eq_nil {entries : List (Selector × Rule)} {seen : Json → Coverage} {v : Json} :
    (select entries).faults seen v = [] ↔
      ∀ e ∈ entries, ∀ m ∈ v.members, e.1.selects m.1 → e.2.accepts m.2 := by
  unfold select
  simp only [List.flatMap_eq_nil_iff, onMember_eq_nil, List.mem_singleton, forall_eq]

theorem closed_eq_nil {entries : List (Selector × Rule)} {seen : Json → Coverage} {v : Json} :
    (closed entries).faults seen v = [] ↔
      ∀ m ∈ v.members, (∀ e ∈ entries, e.1.selects m.1 → e.2.accepts m.2) ∧
        (entries.any fun e => e.1.selects m.1) = true := by
  unfold closed
  dsimp only
  rw [List.append_eq_nil_iff, demand_eq_nil, List.isEmpty_iff, List.filter_eq_nil_iff,
    List.flatMap_eq_nil_iff]
  simp only [onMember_eq_nil, Bool.not_eq_true', Bool.not_eq_false, forall_and]

theorem others_eq_nil {entries : List (Selector × Rule)} {other : Rule}
    {seen : Json → Coverage} {v : Json} :
    (others entries other).faults seen v = [] ↔
      ∀ m ∈ v.members, (∀ e ∈ entries, e.1.selects m.1 → e.2.accepts m.2) ∧
        ((entries.any fun e => e.1.selects m.1) = false → other.accepts m.2) := by
  unfold others
  dsimp only
  rw [List.flatMap_eq_nil_iff]
  refine forall₂_congr fun m _ => ?_
  split
  · next hany => simp only [onMember_eq_nil, hany, Bool.true_eq_false, false_imp_iff, and_true]
  · next hany =>
    rw [Bool.not_eq_true] at hany
    rw [within_eq_nil, ← accepts_iff]
    refine ⟨fun h => ⟨fun e he hs => ?_, fun _ => h⟩, fun h => h.2 hany⟩
    exact absurd hs (List.any_eq_false.mp hany e he)

theorem dependent_eq_nil {keyword : String} {entries : List (Selector × Rule)}
    {seen : Json → Coverage} {v : Json} :
    (dependent keyword entries).faults seen v = [] ↔
      ∀ e ∈ entries, ∀ m ∈ v.members, e.1.selects m.1 → e.2.accepts v := by
  unfold dependent
  simp only [List.flatMap_eq_nil_iff, List.mem_flatMap, List.mem_map, List.mem_filter,
    under_eq_nil, ← accepts_iff]
  refine ⟨fun h e he m hm hs => h (m.1, e.2) ⟨e, he, m, ⟨hm, hs⟩, rfl⟩, ?_⟩
  rintro h _ ⟨e, he, m, ⟨hm, hs⟩, rfl⟩
  exact h e he m hm hs

theorem unevaluatedMembers_eq_nil {other : Rule} {seen : Json → Coverage} {v : Json} :
    (unevaluatedMembers other).faults seen v = [] ↔
      ∀ m ∈ v.members, m.1 ∉ (seen v).names → other.accepts m.2 := by
  unfold unevaluatedMembers
  dsimp only
  rw [demand_eq_nil, List.isEmpty_iff, List.filter_eq_nil_iff]
  simp only [Bool.and_eq_true, Bool.not_eq_true', not_and, Bool.not_eq_false,
    List.contains_eq_mem, decide_eq_false_iff_not]

theorem unevaluatedItems_eq_nil {other : Rule} {seen : Json → Coverage} {v : Json} :
    (unevaluatedItems other).faults seen v = [] ↔
      ∀ p ∈ itemsOf v, p.2 ∉ (seen v).items → other.accepts p.1 := by
  unfold unevaluatedItems
  dsimp only
  rw [demand_eq_nil, List.isEmpty_iff, List.filter_eq_nil_iff]
  simp only [Bool.and_eq_true, Bool.not_eq_true', not_and, Bool.not_eq_false,
    List.contains_eq_mem, decide_eq_false_iff_not]

theorem allOf_eq_nil {rules : List Rule} {seen : Json → Coverage} {v : Json} :
    (allOf rules).faults seen v = [] ↔ ∀ r ∈ rules, r.accepts v := by
  unfold allOf
  simp only [List.flatMap_eq_nil_iff, under_eq_nil, ← accepts_iff]
  refine ⟨fun h r hr => ?_, fun h p hp => h p.1 (List.fst_mem_of_mem_zipIdx hp)⟩
  obtain ⟨i, hi, rfl⟩ := List.mem_iff_getElem.mp hr
  exact h (rules[i], i) (List.mk_mem_zipIdx_iff_getElem?.mpr (List.getElem?_eq_getElem hi))

/-- How many of some rules accept a value. -/
def accepting (rules : List Rule) (v : Json) : Nat := (rules.filter fun r => r.accepts v).length

theorem oneOf_eq_nil {rules : List Rule} {seen : Json → Coverage} {v : Json} :
    (oneOf rules).faults seen v = [] ↔ accepting rules v = 1 := by
  unfold oneOf accepting
  dsimp only
  generalize (rules.filter fun r => r.accepts v).length = n
  cases n with
  | zero => simp
  | succ n =>
    change demand _ _ _ _ = [] ↔ _
    rw [demand_eq_nil, beq_iff_eq]

/-! ### Rules without parts -/

theorem stricter_blind {f g : Json → List Fault} (h : ∀ v, f v = [] → g v = []) :
    (blind f).Stricter (blind g) :=
  ⟨rfl, fun _ v => h v, fun _ => .refl _⟩

theorem stricter_always : always.Stricter always := ⟨rfl, fun _ _ h => h, fun _ => .refl _⟩

theorem stricter_never : never.Stricter never := ⟨rfl, fun _ _ h => h, fun _ => .refl _⟩

theorem stricter_check (keyword : String) (c : Check) :
    (check keyword c).Stricter (check keyword c) :=
  stricter_blind fun _ h => h

theorem stricter_covers (limit : Option Nat) : (covers limit).Stricter (covers limit) :=
  ⟨rfl, fun _ _ h => h, fun _ => .refl _⟩

namespace Stricter

variable {t l : Rule} {ts ls : List Rule}

/-! ### References -/

theorem deferred {t l : Unit → Rule} (h : ∀ v, (t ()).accepts v → (l ()).accepts v)
    (hc : ∀ v, ((t ()).coverage v).Within ((l ()).coverage v)) :
    (Rule.deferred t).Stricter (Rule.deferred l) :=
  ⟨rfl, fun _ v hv => accepts_iff.mp (h v (accepts_iff.mpr hv)), hc⟩

theorem ref (h : t.Stricter l) (keyword : String) :
    (Rule.ref keyword t).Stricter (Rule.ref keyword l) := by
  refine ⟨rfl, fun _ v hv => ?_, h.coverage⟩
  change under _ _ = [] at hv
  change under _ _ = []
  rw [under_eq_nil, ← accepts_iff] at hv ⊢
  exact h.accepts hv

/-! ### Keywords side by side -/

/-- **Side by side.** It is enough that every keyword of the laxer schema has one of the stricter
schema behind it, and that no keyword of the stricter one has looked at more than all keywords of
the laxer one. -/
theorem inTurn (he : ∀ l ∈ ls, ∃ t ∈ ts, t.Entails l)
    (hc : ∀ t ∈ ts, ∀ v, (t.coverage v).Within (joined ls v)) :
    (Rule.inTurn ts).Stricter (Rule.inTurn ls) := by
  -- A rule that asks of what others have looked at is told of less around the stricter one.
  have hjoined : ∀ v, (joined ts v).Within (joined ls v) := by
    intro v
    refine Coverage.unions_within fun c hmem => ?_
    obtain ⟨t, ht, rfl⟩ := List.mem_map.mp hmem
    exact hc t ht v
  refine ⟨rfl, fun _ v hv => ?_, hjoined⟩
  refine List.flatMap_eq_nil_iff.mpr fun l hl => ?_
  obtain ⟨t, ht, htl⟩ := he l hl
  exact htl hjoined v (List.flatMap_eq_nil_iff.mp hv t ht)

theorem inTurn_of_forall₂ (h : List.Forall₂ Stricter ts ls) :
    (Rule.inTurn ts).Stricter (Rule.inTurn ls) := by
  refine inTurn (fun l hl => ?_) (fun t ht v => ?_)
  · obtain ⟨t, ht, hs⟩ := exists_of_mem_right h hl
    exact ⟨t, ht, hs.entails⟩
  · obtain ⟨l, hl, hs⟩ := exists_of_mem_left h ht
    exact (hs.coverage v).trans (Coverage.within_unions (List.mem_map_of_mem hl))

/-! ### Members -/

/-- Two entries for the same members, of which the first one is stricter. -/
def Entry (t l : Selector × Rule) : Prop := t.1 = l.1 ∧ t.2.Stricter l.2

variable {tes les : List (Selector × Rule)}

theorem any_selects (h : List.Forall₂ Entry tes les) (name : String) :
    (tes.any fun e => e.1.selects name) = les.any fun e => e.1.selects name := by
  induction h with
  | nil => rfl
  | cons he _ ih => rw [List.any_cons, List.any_cons, ih, he.1]

theorem accepts_entries (h : List.Forall₂ Entry tes les) {P : Selector → Prop} {v : Json}
    (ht : ∀ e ∈ tes, P e.1 → e.2.accepts v) : ∀ e ∈ les, P e.1 → e.2.accepts v := by
  intro l hl hP
  obtain ⟨t, hmem, hsel, hs⟩ := exists_of_mem_right h hl
  exact hs.accepts (ht t hmem (hsel ▸ hP))

theorem looksAt_of_entry {t l : Selector × Rule} (h : Entry t l) {m : String × Json}
    (ht : looksAt m t) : looksAt m l := by
  obtain ⟨s, rt⟩ := t
  obtain ⟨s', rl⟩ := l
  obtain ⟨rfl, hs⟩ := h
  cases s with
  -- By its name a member has been looked at only if it is accepted, by a pattern in any case.
  | name n =>
    simp only [looksAt, Bool.and_eq_true] at ht ⊢
    exact ⟨ht.1, hs.accepts ht.2⟩
  | pattern source p => exact ht

theorem membersSeen (h : List.Forall₂ Entry tes les) (v : Json) :
    (Rule.membersSeen tes v).Within (Rule.membersSeen les v) := by
  refine ⟨fun n hn => ?_, List.Subset.refl _⟩
  obtain ⟨m, hm, rfl⟩ := List.mem_map.mp hn
  obtain ⟨hmem, hany⟩ := List.mem_filter.mp hm
  obtain ⟨t, ht, hlooks⟩ := List.any_eq_true.mp hany
  obtain ⟨l, hl, hentry⟩ := exists_of_mem_left h ht
  refine List.mem_map_of_mem (List.mem_filter.mpr ⟨hmem, ?_⟩)
  exact List.any_eq_true.mpr ⟨l, hl, looksAt_of_entry hentry hlooks⟩

theorem membersAccepted (h : t.Stricter l) (v : Json) :
    (Rule.membersAccepted t v).Within (Rule.membersAccepted l v) := by
  refine ⟨fun n hn => ?_, List.Subset.refl _⟩
  obtain ⟨m, hm, rfl⟩ := List.mem_map.mp hn
  obtain ⟨hmem, hacc⟩ := List.mem_filter.mp hm
  exact List.mem_map_of_mem (List.mem_filter.mpr ⟨hmem, h.accepts hacc⟩)

theorem select (h : List.Forall₂ Entry tes les) :
    (Rule.select tes).Stricter (Rule.select les) := by
  refine ⟨rfl, fun _ v hv => ?_, membersSeen h⟩
  rw [select_eq_nil] at hv ⊢
  intro e he m hm
  exact accepts_entries h (P := fun s => s.selects m.1) (fun t ht => hv t ht m hm) e he

theorem closed (h : List.Forall₂ Entry tes les) :
    (Rule.closed tes).Stricter (Rule.closed les) := by
  refine ⟨rfl, fun _ v hv => ?_, membersSeen h⟩
  rw [closed_eq_nil] at hv ⊢
  intro m hm
  rw [← any_selects h]
  exact ⟨accepts_entries h (P := fun s => s.selects m.1) (hv m hm).1, (hv m hm).2⟩

/-- What allows no other members also asks what is asked of some of the listed ones. -/
theorem closed_entails_select (h : List.Forall₂ Entry tes les) {es : List (Selector × Rule)}
    (hsub : es ⊆ les) : (Rule.closed tes).Entails (Rule.select es) := by
  intro _ _ _ v hv
  rw [closed_eq_nil] at hv
  rw [select_eq_nil]
  intro e he m hm
  exact accepts_entries h (P := fun s => s.selects m.1) (hv m hm).1 e (hsub he)

/-- What entries have looked at is what parts of them have. -/
theorem membersSeen_append_within {es es' : List (Selector × Rule)} {v : Json} {c : Coverage}
    (h : (Rule.membersSeen es v).Within c) (h' : (Rule.membersSeen es' v).Within c) :
    (Rule.membersSeen (es ++ es') v).Within c := by
  refine ⟨fun n hn => ?_, List.nil_subset _⟩
  obtain ⟨m, hm, rfl⟩ := List.mem_map.mp hn
  obtain ⟨hmem, hany⟩ := List.mem_filter.mp hm
  rw [List.any_append, Bool.or_eq_true] at hany
  rcases hany with hany | hany
  · exact h.names (List.mem_map_of_mem (List.mem_filter.mpr ⟨hmem, hany⟩))
  · exact h'.names (List.mem_map_of_mem (List.mem_filter.mpr ⟨hmem, hany⟩))

theorem others (h : List.Forall₂ Entry tes les) (ho : t.Stricter l) :
    (Rule.others tes t).Stricter (Rule.others les l) := by
  refine ⟨rfl, fun _ v hv => ?_, fun v => (membersSeen h v).union (membersAccepted ho v)⟩
  rw [others_eq_nil] at hv ⊢
  intro m hm
  rw [← any_selects h]
  refine ⟨accepts_entries h (P := fun s => s.selects m.1) (hv m hm).1, fun hany => ?_⟩
  exact ho.accepts ((hv m hm).2 hany)

theorem names (h : t.Stricter l) : (Rule.names t).Stricter (Rule.names l) := by
  refine stricter_blind fun v hv => ?_
  rw [List.flatMap_eq_nil_iff] at hv ⊢
  intro m hm
  have hname := hv m hm
  rw [List.map_eq_nil_iff, ← accepts_iff] at hname ⊢
  exact h.accepts hname

theorem dependent (h : List.Forall₂ Entry tes les) (keyword : String) :
    (Rule.dependent keyword tes).Stricter (Rule.dependent keyword les) := by
  refine ⟨rfl, fun _ v hv => ?_, fun v => ?_⟩
  · rw [dependent_eq_nil] at hv ⊢
    intro e he m hm
    exact accepts_entries h (P := fun s => s.selects m.1) (fun t ht => hv t ht m hm) e he
  · unfold Rule.dependent
    dsimp only
    split
    -- What a dependency of the stricter schema has looked at, the same one of the other has too.
    · refine Coverage.unions_within fun c hmem => ?_
      simp only [List.mem_map, List.mem_flatMap, List.mem_filter] at hmem
      obtain ⟨_, ⟨_, ⟨t, ht, m, ⟨hm, hsel⟩, rfl⟩, rfl⟩, rfl⟩ := hmem
      obtain ⟨l, hl, hsame, hs⟩ := exists_of_mem_left h ht
      refine (hs.coverage v).trans (Coverage.within_unions ?_)
      simp only [List.mem_map, List.mem_flatMap, List.mem_filter]
      exact ⟨_, ⟨_, ⟨l, hl, m, ⟨hm, hsame ▸ hsel⟩, rfl⟩, rfl⟩, rfl⟩
    · exact .refl _

theorem unevaluatedMembers (h : t.Stricter l) :
    (Rule.unevaluatedMembers t).Stricter (Rule.unevaluatedMembers l) := by
  refine ⟨rfl, fun hseen v hv => ?_, membersAccepted h⟩
  rw [unevaluatedMembers_eq_nil] at hv ⊢
  intro m hm hnot
  exact h.accepts (hv m hm fun hmem => hnot ((hseen v).names hmem))

/-! ### Items -/

theorem itemsAccepted (h : t.Stricter l) (v : Json) :
    (Rule.itemsAccepted t v).Within (Rule.itemsAccepted l v) := by
  refine ⟨List.Subset.refl _, fun i hi => ?_⟩
  obtain ⟨p, hp, rfl⟩ := List.mem_map.mp hi
  obtain ⟨hmem, hacc⟩ := List.mem_filter.mp hp
  exact List.mem_map_of_mem (List.mem_filter.mpr ⟨hmem, h.accepts hacc⟩)

theorem items (h : t.Stricter l) (keyword : String) (start : Nat) :
    (Rule.items keyword start t).Stricter (Rule.items keyword start l) := by
  refine stricter_blind fun v hv => ?_
  rw [List.flatMap_eq_nil_iff] at hv ⊢
  intro p hp
  have hitem := hv p hp
  rw [within_eq_nil, ← accepts_iff] at hitem ⊢
  exact h.accepts hitem

theorem tuple (h : List.Forall₂ Stricter ts ls) (keyword : String) :
    (Rule.tuple keyword ts).Stricter (Rule.tuple keyword ls) := by
  refine stricter_blind fun v hv => ?_
  -- Both lists are gone through together; what is left over asks for nothing.
  generalize itemsOf v = xs at hv ⊢
  induction h generalizing xs with
  | nil => simp
  | cons hs _ ih =>
    cases xs with
    | nil => simp
    | cons x xs =>
      rw [List.zip_cons_cons, List.flatMap_cons, List.append_eq_nil_iff, within_eq_nil,
        ← accepts_iff] at hv ⊢
      exact ⟨hs.accepts hv.1, ih xs hv.2⟩

/-- More items match a laxer schema. -/
theorem length_itemsOf_le (h : t.Stricter l) (v : Json) :
    ((itemsOf v).filter fun p => t.accepts p.1).length ≤
      ((itemsOf v).filter fun p => l.accepts p.1).length :=
  (List.monotone_filter_right _ fun _ hp => h.accepts hp).length_le

/-- Without an upper bound it does no harm if more items match. -/
theorem contains_of_unbounded (h : t.Stricter l) (least : Option Nat) :
    (Rule.contains t least none).Stricter (Rule.contains l least none) := by
  refine ⟨rfl, fun _ v hv => ?_, itemsAccepted h⟩
  have hle := length_itemsOf_le h v
  unfold Rule.contains at hv ⊢
  dsimp only at hv ⊢
  generalize ((itemsOf v).filter fun p => t.accepts p.1).length = m at hv hle
  generalize ((itemsOf v).filter fun p => l.accepts p.1).length = n at hle ⊢
  cases v with
  | arr xs =>
    cases least with
    | none =>
      by_cases hn : n = 0
      · -- No item at all matches the stricter one.
        obtain rfl : m = 0 := by omega
        simp [countKeyword] at hv
      · simp [countKeyword, hn]
    | some k =>
      by_cases hn : n < k
      · have hm : m < k := by omega
        simp [countKeyword, hm] at hv
      · simp [countKeyword, hn]
  | _ => rfl

/-- With an upper bound the same items have to match. -/
theorem contains (h : t.Stricter l) (heq : ∀ v, t.accepts v = l.accepts v)
    (least most : Option Nat) :
    (Rule.contains t least most).Stricter (Rule.contains l least most) := by
  refine ⟨rfl, fun _ v hv => ?_, itemsAccepted h⟩
  unfold Rule.contains at hv ⊢
  simp only [heq] at hv ⊢
  exact hv

theorem unevaluatedItems (h : t.Stricter l) :
    (Rule.unevaluatedItems t).Stricter (Rule.unevaluatedItems l) := by
  refine ⟨rfl, fun hseen v hv => ?_, itemsAccepted h⟩
  rw [unevaluatedItems_eq_nil] at hv ⊢
  intro p hp hnot
  exact h.accepts (hv p hp fun hmem => hnot ((hseen v).items hmem))

/-! ### Combinations -/

theorem asked (h : List.Forall₂ Stricter ts ls) :
    List.Forall₂ Stricter (ts.filter Rule.hasKeywords) (ls.filter Rule.hasKeywords) :=
  List.rel_filter (fun _ _ hs => Bool.eq_iff_iff.mp hs.hasKeywords) h

/-- More of the laxer alternatives accept a value. -/
theorem accepting_le (h : List.Forall₂ Stricter ts ls) (v : Json) :
    accepting ts v ≤ accepting ls v := by
  induction h with
  | nil => exact Nat.le_refl _
  | @cons t l _ _ hs _ ih =>
    unfold accepting at ih ⊢
    -- An alternative that begins to accept the value only adds to the laxer side.
    rw [List.filter_cons, List.filter_cons]
    by_cases ht : t.accepts v
    · rw [if_pos ht, if_pos (hs.accepts ht)]
      exact Nat.succ_le_succ ih
    · rw [if_neg ht]
      split
      · exact Nat.le_succ_of_le ih
      · exact ih

/-- As many alternatives accept a value if each goes on accepting what it did. -/
theorem accepting_eq (h : List.Forall₂ (fun t l => ∀ v, t.accepts v = l.accepts v) ts ls)
    (v : Json) : accepting ts v = accepting ls v := by
  induction h with
  | nil => rfl
  | cons hs _ ih =>
    unfold accepting at ih ⊢
    rw [List.filter_cons, List.filter_cons, hs v]
    split
    · exact congrArg Nat.succ ih
    · exact ih

/-- What some alternatives have looked at, if whether it counts is not lost where more of them
accept the value. -/
theorem counted (h : List.Forall₂ Stricter ts ls) {members items : Nat → Nat → Bool} {v : Json}
    (hm : ∀ total, accepting (ls.filter Rule.hasKeywords) v ≤ total →
      members (accepting (ts.filter Rule.hasKeywords) v) total →
      members (accepting (ls.filter Rule.hasKeywords) v) total)
    (hi : ∀ total, accepting (ls.filter Rule.hasKeywords) v ≤ total →
      items (accepting (ts.filter Rule.hasKeywords) v) total →
      items (accepting (ls.filter Rule.hasKeywords) v) total) :
    (Rule.counted ts members items v).Within (Rule.counted ls members items v) := by
  have hlen := (asked h).length_eq
  have hall : (joined (ts.filter Rule.hasKeywords) v).Within
      (joined (ls.filter Rule.hasKeywords) v) := by
    refine Coverage.unions_within fun c hmem => ?_
    obtain ⟨t, ht, rfl⟩ := List.mem_map.mp hmem
    obtain ⟨l, hl, hs⟩ := exists_of_mem_left (asked h) ht
    exact (hs.coverage v).trans (Coverage.within_unions (List.mem_map_of_mem hl))
  -- The two counts are taken of lists of one length, so `total` is the same for both.
  have hle : accepting (ls.filter Rule.hasKeywords) v ≤ (ls.filter Rule.hasKeywords).length :=
    List.length_filter_le _ _
  unfold accepting at hm hi hle
  unfold Rule.counted
  dsimp only
  rw [hlen]
  constructor
  · dsimp only
    split
    · next ht =>
      rw [if_pos (hm _ hle ht)]
      exact hall.names
    · exact List.nil_subset _
  · dsimp only
    split
    · next ht =>
      rw [if_pos (hi _ hle ht)]
      exact hall.items
    · exact List.nil_subset _

theorem allOf (h : List.Forall₂ Stricter ts ls) : (Rule.allOf ts).Stricter (Rule.allOf ls) := by
  refine ⟨rfl, fun _ v hv => ?_, fun v => ?_⟩
  · rw [allOf_eq_nil] at hv ⊢
    intro l hl
    obtain ⟨t, ht, hs⟩ := exists_of_mem_right h hl
    exact hs.accepts (hv t ht)
  -- All alternatives accept the value, and more of the laxer ones cannot.
  · have hle := accepting_le (asked h) v
    change (Rule.counted ts (· == ·) (· == ·) v).Within _
    refine counted h (fun total hmax ht => ?_) (fun total hmax ht => ?_)
    all_goals
      rw [beq_iff_eq] at ht ⊢
      omega

theorem anyOf (h : List.Forall₂ Stricter ts ls) : (Rule.anyOf ts).Stricter (Rule.anyOf ls) := by
  refine ⟨rfl, fun _ v hv => ?_, fun v => ?_⟩
  · unfold Rule.anyOf at hv ⊢
    dsimp only at hv ⊢
    rw [demand_eq_nil, List.any_eq_true] at hv ⊢
    obtain ⟨t, ht, hacc⟩ := hv
    obtain ⟨l, hl, hs⟩ := exists_of_mem_left h ht
    exact ⟨l, hl, hs.accepts hacc⟩
  · have hle := accepting_le (asked h) v
    change (Rule.counted ts (fun n _ => n != 0) (· == ·) v).Within _
    refine counted h (fun total hmax ht => ?_) (fun total hmax ht => ?_)
    · simp only [bne_iff_ne] at ht ⊢
      omega
    · rw [beq_iff_eq] at ht ⊢
      omega

/-- Exactly one alternative still holds only if none of the others holds anew. -/
theorem oneOf (h : List.Forall₂ Stricter ts ls)
    (heq : List.Forall₂ (fun t l => ∀ v, t.accepts v = l.accepts v) ts ls) :
    (Rule.oneOf ts).Stricter (Rule.oneOf ls) := by
  refine ⟨rfl, fun _ v hv => ?_, fun v => ?_⟩
  · rw [oneOf_eq_nil] at hv ⊢
    rw [← accepting_eq heq, hv]
  -- Exactly one of them has been counted, so the numbers have to agree and not only to grow.
  · have hasked : List.Forall₂ (fun t l => ∀ v, t.accepts v = l.accepts v)
        (ts.filter Rule.hasKeywords) (ls.filter Rule.hasKeywords) := by
      have hboth := List.Forall₂.mp (fun t l (hs : Stricter t l) ha => And.intro hs ha) h heq
      have hkept := List.rel_filter (p := Rule.hasKeywords) (q := Rule.hasKeywords)
        (fun _ _ hs => Bool.eq_iff_iff.mp hs.1.hasKeywords) hboth
      exact hkept.imp fun _ _ hs => hs.2
    have hsame := accepting_eq hasked v
    change (Rule.counted ts (fun n _ => n == 1) (fun n _ => n == 1) v).Within _
    exact counted h (fun _ _ ht => hsame ▸ ht) (fun _ _ ht => hsame ▸ ht)

/-- What must not hold must not begin to hold. -/
theorem negation (heq : ∀ v, t.accepts v = l.accepts v) (st sl : Json) :
    (Rule.negation t st).Stricter (Rule.negation l sl) := by
  refine stricter_blind fun v hv => ?_
  rw [demand_eq_nil] at hv ⊢
  rw [← heq, hv]

/-- Whether a condition holds must not change, for it decides what else is asked. -/
theorem choice {t' l' t'' l'' : Rule} (h : t.Stricter l) (heq : ∀ v, t.accepts v = l.accepts v)
    (hyes : t'.Stricter l') (hno : t''.Stricter l'') :
    (Rule.choice t t' t'').Stricter (Rule.choice l l' l'') := by
  refine ⟨rfl, fun _ v hv => ?_, fun v => ?_⟩
  · unfold Rule.choice at hv ⊢
    dsimp only at hv ⊢
    rw [← heq]
    split at hv
    · next ha =>
      rw [if_pos ha, under_eq_nil, ← accepts_iff] at *
      exact hyes.accepts hv
    · next ha =>
      rw [if_neg ha, under_eq_nil, ← accepts_iff] at *
      exact hno.accepts hv
  · unfold Rule.choice
    dsimp only
    rw [← heq, ← h.hasKeywords]
    split
    · exact .refl _
    · split
      · exact (h.coverage v).union (hyes.coverage v)
      · exact hno.coverage v

/-- A condition that decides nothing only has looked at something. -/
theorem choice_of_noBranches (h : t.Stricter l) :
    (Rule.choice t .always .always).Stricter (Rule.choice l .always .always) := by
  have hnil : ∀ (r : Rule) (v : Json), (if r.accepts v then under [.key "then"] (always.apply v)
      else under [.key "else"] (always.apply v)) = [] := by
    intro r v
    split <;> rfl
  refine ⟨rfl, fun _ v _ => hnil l v, fun v => ?_⟩
  unfold Rule.choice
  dsimp only
  rw [← h.hasKeywords]
  split
  · exact .refl _
  · split
    · next ha =>
      rw [if_pos (h.accepts ha)]
      exact (h.coverage v).union (.refl _)
    · exact Coverage.nothing_within _

end Stricter

end Rule

end DocCheck.Schema
