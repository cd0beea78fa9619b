import DocCheck.Proofs.Json.Place
import DocCheck.Proofs.Schema.Checks
import DocCheck.Schema.Build

/-!
# How faults arise

Whatever a schema is, a fault that it finds in a value is of one of a few origins: something is
wrong with the value itself, with the members of an object as such, or with the name of a member; or
it was found in a part of the value, or by a subschema for the same value, and is seen from there.
What holds of all faults of all schemas is proved from these origins, without another look at the
kinds of keywords.

* `Found` — the origins of faults;
* `Node.rule_finds` — trees find no faults of another origin;
* `Program.found_of_mem_faults` — nor do compiled schemas;
* `Found.at?_isSome` — a fault is placed in the value in which it was found.
-/

namespace DocCheck.Schema

/-- Whether a cause is about a value as a whole. The others list members or speak of a name. -/
def Cause.IsOwn : Cause → Prop
  | .additionalProperties _ | .unevaluatedProperties _ | .memberName _ => False
  | .noAlternative keyword => keyword = "anyOf" ∨ keyword = "oneOf"
  | _ => True

/-- The faults that a schema can find in a value. -/
inductive Found : Json → Fault → Prop where
  /-- Something is wrong with a value as a whole. -/
  | own {v w : Json} {keywords : List Json.Step} {cause : Cause} (h : cause.IsOwn) :
      Found v ⟨[], keywords, w, cause⟩
  /-- Members are not listed. -/
  | unlisted {ms : List (String × Json)} {keywords : List Json.Step} {names : List String}
      (h : names ≠ []) : Found (.obj ms) ⟨[], keywords, .obj ms, .additionalProperties names⟩
  /-- Members are not evaluated. -/
  | unevaluated {ms : List (String × Json)} {keywords : List Json.Step} {names : List String} :
      Found (.obj ms) ⟨[], keywords, .obj ms, .unevaluatedProperties names⟩
  /-- Something is wrong with the name of a member. -/
  | name {ms : List (String × Json)} {m : String × Json} {f : Fault} (hm : m ∈ ms)
      (h : Found (.str m.1) f) : Found (.obj ms) (Rule.nameFault (.obj ms) f)
  /-- A subschema finds something in the same value. -/
  | under {v : Json} {f : Fault} (keywords : List Json.Step) (h : Found v f) :
      Found v (f.below [] keywords)
  /-- Something is found in a member. -/
  | member {ms : List (String × Json)} {m : String × Json} {f : Fault} (keywords : List Json.Step)
      (hm : m ∈ ms) (h : Found m.2 f) : Found (.obj ms) (f.below [.key m.1] keywords)
  /-- Something is found in an item. -/
  | item {xs : List Json} {i : Nat} {x : Json} {f : Fault} (keywords : List Json.Step)
      (hx : xs[i]? = some x) (h : Found x f) : Found (.arr xs) (f.below [.index i] keywords)

/-- Whether some faults are such as a schema can find in a value. -/
def AllFound (v : Json) (fs : List Fault) : Prop := ∀ f ∈ fs, Found v f

/-- A rule that finds no faults of another origin. -/
def Rule.Finds (r : Rule) : Prop := ∀ seen v, AllFound v (r.faults seen v)

/-! ### Lists of faults -/

variable {v : Json} {fs gs : List Fault}

theorem allFound_nil : AllFound v [] := nofun

theorem AllFound.append (h : AllFound v fs) (h' : AllFound v gs) : AllFound v (fs ++ gs) :=
  List.forall_mem_append.mpr ⟨h, h'⟩

theorem allFound_flatMap {α : Type} {xs : List α} {f : α → List Fault}
    (h : ∀ x ∈ xs, AllFound v (f x)) : AllFound v (xs.flatMap f) := by
  intro g hg
  obtain ⟨x, hx, hgx⟩ := List.mem_flatMap.mp hg
  exact h x hx g hgx

theorem AllFound.under (h : AllFound v fs) (keywords : List Json.Step) :
    AllFound v (Rule.under keywords fs) := by
  intro g hg
  obtain ⟨f, hf, rfl⟩ := List.mem_map.mp hg
  exact (h f hf).under keywords

/-- What is found in a member. -/
theorem AllFound.within_member {m : String × Json} (hm : m ∈ v.members) (h : AllFound m.2 fs)
    (keywords : List Json.Step) : AllFound v (Rule.within (.key m.1) keywords fs) := by
  cases v with
  | obj ms =>
    intro g hg
    obtain ⟨f, hf, rfl⟩ := List.mem_map.mp hg
    exact (h f hf).member keywords hm
  | _ => exact absurd hm List.not_mem_nil

/-- What is found in an item. -/
theorem AllFound.within_item {p : Json × Nat} (hp : p ∈ Rule.itemsOf v) (h : AllFound p.1 fs)
    (keywords : List Json.Step) : AllFound v (Rule.within (.index p.2) keywords fs) := by
  cases v with
  | arr xs =>
    intro g hg
    obtain ⟨f, hf, rfl⟩ := List.mem_map.mp hg
    have hx : xs[p.2]? = some p.1 := List.mem_zipIdx_iff_getElem?.mp hp
    exact (h f hf).item keywords hx
  | _ => exact absurd hp List.not_mem_nil

theorem allFound_demand {passed : Bool} {keyword : String} {cause : Cause}
    (h : passed = false → Found v ⟨[], [.key keyword], v, cause⟩) :
    AllFound v (Rule.demand passed keyword v cause) := by
  unfold Rule.demand
  split
  · exact allFound_nil
  · next hp => exact List.forall_mem_singleton.mpr (h (Bool.not_eq_true _ ▸ hp))

/-! ### Checks -/

/-- Whether some causes are about a value as a whole. -/
def AllOwn (causes : List Cause) : Prop := ∀ c ∈ causes, c.IsOwn

/-- What a check can have for a cause is about a value as a whole. -/
theorem Check.CanHave.isOwn {c : Check} {cause : Cause} (h : c.CanHave cause) : cause.IsOwn := by
  cases cause with
  | additionalProperties names => exact h
  | unevaluatedProperties names => exact h
  | memberName message => exact h
  | noAlternative keyword => exact h.elim
  | _ => trivial

/-- **Checks** speak of a value as a whole. -/
theorem allOwn_causes (c : Check) (v : Json) : AllOwn ((c.causes v).map Prod.snd) := by
  intro cause hcause
  obtain ⟨p, hp, rfl⟩ := List.mem_map.mp hcause
  exact (c.canHave_of_mem_causes v p hp).isOwn

/-! ### Rules -/

namespace Rule

theorem finds_blind {f : Json → List Fault} (h : ∀ v, AllFound v (f v)) : (blind f).Finds :=
  fun _ v => h v

theorem Finds.apply {r : Rule} (h : r.Finds) (v : Json) : AllFound v (r.apply v) := h _ v

theorem finds_check (keyword : String) (c : Check) : (check keyword c).Finds := by
  refine finds_blind fun v f hf => ?_
  obtain ⟨p, hp, rfl⟩ := List.mem_map.mp hf
  exact (Found.own (allOwn_causes c v p.2 (List.mem_map_of_mem hp))).under _

theorem finds_inTurn {rules : List Rule} (h : ∀ r ∈ rules, r.Finds) : (inTurn rules).Finds :=
  fun _ v => allFound_flatMap fun r hr => h r hr _ v

theorem allFound_onMember {entries : List (Selector × Rule)} (h : ∀ e ∈ entries, e.2.Finds)
    {m : String × Json} (hm : m ∈ v.members) : AllFound v (onMember entries m) :=
  allFound_flatMap fun e he => ((h e (List.mem_of_mem_filter he)).apply m.2).within_member hm _

theorem finds_select {entries : List (Selector × Rule)} (h : ∀ e ∈ entries, e.2.Finds) :
    (select entries).Finds := by
  refine fun _ v => allFound_flatMap fun e he => allFound_flatMap fun m hm => ?_
  exact allFound_onMember (List.forall_mem_singleton.mpr (h e he)) hm

/-- A closed schema lists only members that are there. -/
theorem finds_closed {entries : List (Selector × Rule)} (h : ∀ e ∈ entries, e.2.Finds) :
    (closed entries).Finds := by
  intro _ v
  refine (allFound_flatMap fun m hm => allFound_onMember h hm).append ?_
  refine allFound_demand fun hne => ?_
  -- There is a fault only if some member is not listed; values without members have none.
  cases v with
  | obj ms =>
    refine .unlisted fun hnil => ?_
    rw [List.map_eq_nil_iff] at hnil
    rw [hnil] at hne
    exact Bool.noConfusion hne
  | _ => exact Bool.noConfusion hne

theorem finds_others {entries : List (Selector × Rule)} {other : Rule}
    (h : ∀ e ∈ entries, e.2.Finds) (ho : other.Finds) : (others entries other).Finds := by
  refine fun _ v => allFound_flatMap fun m hm => ?_
  split
  · exact allFound_onMember h hm
  · exact (ho.apply m.2).within_member hm _

theorem finds_names {name : Rule} (h : name.Finds) : (names name).Finds := by
  refine finds_blind fun v => allFound_flatMap fun m hm f hf => ?_
  obtain ⟨g, hg, rfl⟩ := List.mem_map.mp hf
  cases v with
  | obj ms => exact .name hm (h.apply (.str m.1) g hg)
  | _ => exact absurd hm List.not_mem_nil

theorem finds_dependent {keyword : String} {entries : List (Selector × Rule)}
    (h : ∀ e ∈ entries, e.2.Finds) : (dependent keyword entries).Finds := by
  refine fun _ v => allFound_flatMap fun p hp => ?_
  obtain ⟨e, he, hpe⟩ := List.mem_flatMap.mp hp
  obtain ⟨m, _, rfl⟩ := List.mem_map.mp hpe
  exact ((h e he).apply v).under _

theorem finds_unevaluatedMembers {other : Rule} : (unevaluatedMembers other).Finds := by
  refine fun _ v => allFound_demand fun hne => ?_
  cases v with
  | obj ms => exact .unevaluated
  | _ => exact Bool.noConfusion hne

theorem finds_items {keyword : String} {start : Nat} {item : Rule} (h : item.Finds) :
    (items keyword start item).Finds :=
  finds_blind fun _ => allFound_flatMap fun p hp =>
    (h.apply p.1).within_item (List.mem_of_mem_drop hp) _

theorem finds_tuple {keyword : String} {rules : List Rule} (h : ∀ r ∈ rules, r.Finds) :
    (tuple keyword rules).Finds :=
  finds_blind fun _ => allFound_flatMap fun p hp =>
    ((h p.2 (List.of_mem_zip hp).2).apply p.1.1).within_item (List.of_mem_zip hp).1 _

theorem finds_contains {item : Rule} {least most : Option Nat} :
    (contains item least most).Finds := by
  intro _ v
  unfold contains
  dsimp only
  split
  · exact allFound_demand fun _ => .own trivial
  · exact allFound_nil

theorem finds_allOf {rules : List Rule} (h : ∀ r ∈ rules, r.Finds) : (allOf rules).Finds :=
  fun _ v => allFound_flatMap fun p hp =>
    ((h p.1 (List.fst_mem_of_mem_zipIdx hp)).apply v).under _

theorem finds_oneOf {rules : List Rule} : (oneOf rules).Finds := by
  intro _ v
  unfold oneOf
  dsimp only
  split
  · exact allFound_demand fun _ => .own (.inr rfl)
  · exact allFound_demand fun _ => .own trivial

theorem finds_choice {condition yes no : Rule} (hyes : yes.Finds) (hno : no.Finds) :
    (choice condition yes no).Finds := by
  intro _ v
  unfold choice
  dsimp only
  split
  · exact (hyes.apply v).under _
  · exact (hno.apply v).under _

end Rule

/-! ### Trees -/

mutual

/-- **Trees** find no faults of another origin, if references do not. -/
theorem Node.rule_finds {follow : Follow} (hf : ∀ r, (follow r).Finds) :
    ∀ n : Node, (n.rule follow).Finds
  | .always => fun _ _ => allFound_nil
  | .never => fun _ _ => List.forall_mem_singleton.mpr (.own trivial)
  | .all parts => Rule.finds_inTurn (rules_find hf parts)
  | .check keyword c => Rule.finds_check keyword c
  | .ref r => fun _ v => ((hf r).apply v).under _
  | .select entries => Rule.finds_select (entryRules_find hf entries)
  | .closed entries => Rule.finds_closed (entryRules_find hf entries)
  | .others entries other => Rule.finds_others (entryRules_find hf entries) (other.rule_finds hf)
  | .names name => Rule.finds_names (name.rule_finds hf)
  | .items _ _ item => Rule.finds_items (item.rule_finds hf)
  | .tuple _ items => Rule.finds_tuple (rules_find hf items)
  | .covers _ => fun _ _ => allFound_nil
  | .contains _ _ _ => Rule.finds_contains
  | .allOf parts => Rule.finds_allOf (rules_find hf parts)
  | .anyOf _ => fun _ _ => allFound_demand fun _ => .own (.inl rfl)
  | .oneOf _ => Rule.finds_oneOf
  | .negation _ _ => fun _ _ => allFound_demand fun _ => .own trivial
  | .choice _ yes no => Rule.finds_choice (yes.rule_finds hf) (no.rule_finds hf)
  | .dependent _ entries => Rule.finds_dependent (entryRules_find hf entries)
  | .unevaluatedMembers _ => Rule.finds_unevaluatedMembers
  | .unevaluatedItems _ => fun _ _ => allFound_demand fun _ => .own trivial
  | .broken _ => fun _ _ => allFound_nil
  termination_by structural n => n

theorem rules_find {follow : Follow} (hf : ∀ r, (follow r).Finds) :
    ∀ ns : List Node, ∀ r ∈ rules follow ns, r.Finds
  | [] => nofun
  | n :: ns => List.forall_mem_cons.mpr ⟨n.rule_finds hf, rules_find hf ns⟩
  termination_by structural ns => ns

theorem entryRules_find {follow : Follow} (hf : ∀ r, (follow r).Finds) :
    ∀ es : List (Selector × Node), ∀ e ∈ entryRules follow es, e.2.Finds
  | [] => nofun
  | e :: es => List.forall_mem_cons.mpr ⟨entryRule_finds hf e, entryRules_find hf es⟩
  termination_by structural es => es

theorem entryRule_finds {follow : Follow} (hf : ∀ r, (follow r).Finds) :
    ∀ e : Selector × Node, (entryRule follow e).2.Finds
  | (_, n) => n.rule_finds hf
  termination_by structural e => e

end

/-- References find no other faults either. -/
theorem Store.follow_finds (st : Store) (n : Nat) (r : Reference) : (st.follow n r).Finds := by
  -- By induction on how many references may follow one another: the tree that a reference leads to
  -- is applied with one less.
  induction n generalizing r with
  | zero => exact fun _ _ => allFound_nil
  | succ n ih =>
    intro _ v
    change AllFound v (Rule.apply _ v)
    refine Rule.Finds.apply ?_ v
    split
    · exact Node.rule_finds ih _
    · exact fun _ _ => allFound_nil
    · exact fun _ _ => allFound_nil

/-- **Compiled schemas** find no faults of another origin. -/
theorem Program.found_of_mem_faults {p : Program} {f : Fault} (h : f ∈ p.faults v) : Found v f :=
  (Node.rule_finds (p.store.follow_finds _) _).apply v f h

/-! ### Places -/

theorem Fault.cause_below (path keywords : List Json.Step) (f : Fault) :
    (f.below path keywords).cause = f.cause := by
  unfold Fault.below
  split <;> rfl

theorem Fault.value_below (path keywords : List Json.Step) (f : Fault) :
    (f.below path keywords).value = f.value := by
  unfold Fault.below
  split <;> rfl

theorem Fault.path_below (path keywords : List Json.Step) (f : Fault) :
    (f.below path keywords).path = if f.isUnplaced then f.path else path ++ f.path := by
  unfold Fault.below
  split <;> rfl

/-- A fault that is not placed has no path. -/
theorem Found.path_eq_nil {f : Fault} (h : Found v f) (hf : f.isUnplaced) : f.path = [] := by
  -- Seen from further up, a fault that is not placed stays as it is.
  have hbelow : ∀ {path keywords : List Json.Step} {g : Fault},
      (g.isUnplaced → g.path = []) → (g.below path keywords).isUnplaced →
        (g.below path keywords).path = [] := by
    intro path keywords g ih hg
    have hunplaced : g.isUnplaced := by
      rwa [Fault.isUnplaced, Fault.cause_below] at hg
    rw [Fault.path_below, if_pos hunplaced, ih hunplaced]
  induction h with
  | own _ => rfl
  | unlisted _ => rfl
  | unevaluated => rfl
  | name _ _ _ => rfl
  | under _ _ ih => exact hbelow ih hf
  | member _ _ _ ih => exact hbelow ih hf
  | item _ _ _ ih => exact hbelow ih hf

/-- **Places.** The path of a fault leads into the value in which it was found. -/
theorem Found.at?_isSome {f : Fault} (h : Found v f) (hv : v.SortedKeys) :
    (v.at? f.path).isSome := by
  -- A step into a part goes in front of a path that leads into the part.
  have hstep : ∀ {s : Json.Step} {j c : Json} {keywords : List Json.Step} {g : Fault},
      Found c g → j.child? s = some c → (c.at? g.path).isSome →
        (j.at? (g.below [s] keywords).path).isSome := by
    intro s j c keywords g hg hc hplace
    rw [Fault.path_below]
    split
    · next hunplaced =>
      rw [hg.path_eq_nil hunplaced]
      rfl
    · rw [List.singleton_append, Json.at?_of_child hc]
      exact hplace
  induction h with
  | own _ => rfl
  | unlisted _ => rfl
  | unevaluated => rfl
  | name _ _ _ => rfl
  | under _ _ ih =>
    rw [Fault.path_below, List.nil_append, ite_self]
    exact ih hv
  | member _ hm h ih => exact hstep h (Json.child?_member hv hm) (ih (hv.member hm))
  | item _ hx h ih => exact hstep h hx (ih (hv.item (List.mem_of_getElem? hx)))

end DocCheck.Schema
