import DocCheck.Proofs.Schema.Stricter
import DocCheck.Schema.Application

/-!
# What can be looked at

A schema looks at no members and no items of a value but those that the value has. So nothing covers
more than everything there is, whatever references mean.

* `Rule.Bounded` — a rule that covers only what there is;
* `Rule.bounded_allOf`, `Rule.bounded_choice`, … — one for each kind of rule that covers something;
* `Node.rule_bounded`, `Store.follow_bounded` — the rules of trees and of references.
-/

namespace DocCheck.Schema

namespace Rule

/-- A rule that covers only members and items that there are. -/
def Bounded (r : Rule) : Prop := ∀ v, (r.coverage v).Within (everything v)

theorem bounded_of_nothing {r : Rule} (h : ∀ v, r.coverage v = .nothing) : r.Bounded := by
  intro v
  rw [h v]
  exact Coverage.nothing_within _

/-! ### Members and items -/

theorem ofNames_within {v : Json} {p : String × Json → Bool} :
    (Coverage.ofNames ((v.members.filter p).map Prod.fst)).Within (everything v) :=
  ⟨List.map_subset _ (List.filter_subset_self _), List.nil_subset _⟩

theorem ofItems_within {v : Json} {indices : List Nat}
    (h : indices ⊆ (itemsOf v).map Prod.snd) : (Coverage.ofItems indices).Within (everything v) :=
  ⟨List.nil_subset _, h⟩

theorem itemsAccepted_within (r : Rule) (v : Json) : (itemsAccepted r v).Within (everything v) :=
  ofItems_within (List.map_subset _ (List.filter_subset_self _))

theorem bounded_covers (limit : Option Nat) : (covers limit).Bounded := by
  intro v
  refine ofItems_within ?_
  cases limit with
  | none => exact List.Subset.refl _
  | some n => exact List.take_subset _ _

/-! ### Several rules -/

variable {rules : List Rule} {entries : List (Selector × Rule)}

theorem joined_within (h : ∀ r ∈ rules, r.Bounded) (v : Json) :
    (joined rules v).Within (everything v) := by
  refine Coverage.unions_within fun c hc => ?_
  obtain ⟨r, hr, rfl⟩ := List.mem_map.mp hc
  exact h r hr v

theorem counted_within (h : ∀ r ∈ rules, r.Bounded) (members items : Nat → Nat → Bool) (v : Json) :
    (counted rules members items v).Within (everything v) := by
  have hall : (joined (rules.filter hasKeywords) v).Within (everything v) :=
    joined_within (fun r hr => h r (List.mem_of_mem_filter hr)) v
  unfold counted
  constructor
  · dsimp only
    split
    · exact hall.names
    · exact List.nil_subset _
  · dsimp only
    split
    · exact hall.items
    · exact List.nil_subset _

theorem bounded_allOf (h : ∀ r ∈ rules, r.Bounded) : (allOf rules).Bounded :=
  counted_within h (· == ·) (· == ·)

theorem bounded_anyOf (h : ∀ r ∈ rules, r.Bounded) : (anyOf rules).Bounded :=
  counted_within h (fun n _ => n != 0) (· == ·)

theorem bounded_oneOf (h : ∀ r ∈ rules, r.Bounded) : (oneOf rules).Bounded :=
  counted_within h (fun n _ => n == 1) (fun n _ => n == 1)

theorem bounded_others (other : Rule) : (others entries other).Bounded :=
  fun _ => Coverage.union_within ofNames_within ofNames_within

theorem bounded_dependent (h : ∀ e ∈ entries, e.2.Bounded) (keyword : String) :
    (dependent keyword entries).Bounded := by
  intro v
  unfold dependent
  dsimp only
  split
  · refine joined_within (fun r hr => ?_) v
    obtain ⟨p, hp, rfl⟩ := List.mem_map.mp hr
    obtain ⟨e, he, hpe⟩ := List.mem_flatMap.mp hp
    obtain ⟨m, _, rfl⟩ := List.mem_map.mp hpe
    exact h e he
  · exact Coverage.nothing_within _

theorem bounded_choice {condition yes no : Rule} (hcondition : condition.Bounded)
    (hyes : yes.Bounded) (hno : no.Bounded) : (choice condition yes no).Bounded := by
  intro v
  unfold choice
  dsimp only
  split
  · exact Coverage.nothing_within _
  · split
    · exact Coverage.union_within (hcondition v) (hyes v)
    · exact hno v

end Rule

/-! ### Trees -/

mutual

/-- **Trees** cover only what there is, if references do. -/
theorem Node.rule_bounded {follow : Follow} (hf : ∀ r, (follow r).Bounded) :
    ∀ n : Node, (n.rule follow).Bounded
  | .always | .never | .check _ _ | .names _ | .items _ _ _ | .tuple _ _ | .negation _ _
  | .broken _ => Rule.bounded_of_nothing fun _ => rfl
  | .all parts => Rule.joined_within (rules_bounded hf parts)
  | .ref r => hf r
  | .select _ | .closed _ => fun _ => Rule.ofNames_within
  | .others _ other => Rule.bounded_others (other.rule follow)
  | .covers limit => Rule.bounded_covers limit
  | .contains item _ _ => Rule.itemsAccepted_within (item.rule follow)
  | .allOf parts => Rule.bounded_allOf (rules_bounded hf parts)
  | .anyOf parts => Rule.bounded_anyOf (rules_bounded hf parts)
  | .oneOf parts => Rule.bounded_oneOf (rules_bounded hf parts)
  | .choice condition yes no =>
    Rule.bounded_choice (condition.rule_bounded hf) (yes.rule_bounded hf) (no.rule_bounded hf)
  | .dependent keyword entries => Rule.bounded_dependent (entryRules_bounded hf entries) keyword
  | .unevaluatedMembers _ => fun _ => Rule.ofNames_within
  | .unevaluatedItems other => Rule.itemsAccepted_within (other.rule follow)
  termination_by structural n => n

theorem rules_bounded {follow : Follow} (hf : ∀ r, (follow r).Bounded) :
    ∀ ns : List Node, ∀ r ∈ rules follow ns, r.Bounded
  | [] => nofun
  | n :: ns => List.forall_mem_cons.mpr ⟨n.rule_bounded hf, rules_bounded hf ns⟩
  termination_by structural ns => ns

theorem entryRules_bounded {follow : Follow} (hf : ∀ r, (follow r).Bounded) :
    ∀ es : List (Selector × Node), ∀ e ∈ entryRules follow es, e.2.Bounded
  | [] => nofun
  | e :: es => List.forall_mem_cons.mpr ⟨entryRule_bounded hf e, entryRules_bounded hf es⟩
  termination_by structural es => es

theorem entryRule_bounded {follow : Follow} (hf : ∀ r, (follow r).Bounded) :
    ∀ e : Selector × Node, (entryRule follow e).2.Bounded
  | (_, n) => n.rule_bounded hf
  termination_by structural e => e

end

/-- **References** cover only what there is, however deep they are followed. -/
theorem Store.follow_bounded (st : Store) (n : Nat) (r : Reference) : (st.follow n r).Bounded := by
  induction n generalizing r with
  | zero => exact Rule.bounded_of_nothing fun _ => rfl
  | succ n ih =>
    intro v
    unfold Store.follow Rule.deferred
    dsimp only
    split
    · exact Node.rule_bounded ih _ v
    · exact Coverage.nothing_within _
    -- A reference that means nothing counts as having looked at everything.
    · exact .refl _

end DocCheck.Schema
