import DocCheck.Proofs.Schema.Checks
import DocCheck.Proofs.Schema.Stricter
import DocCheck.Proofs.Tighten.Reached

/-!
# Tightened schemas are stricter

Tightening makes every schema that it comes to stricter, and so what is around it, as long as
nothing around it asks that it does not hold.

* `Below` — what is known of a place once everything that it refers to has become stricter;
* `Below.applicatorParts_stricter`, `Below.memberParts_stricter` — keyword by keyword;
* `Below.inTurn_stricter_of_open` — the keyword that closes a schema;
* `Below.stricter_self` — the place has become stricter.
-/

namespace DocCheck.Schema

open Json (lookup)
open Rule (Stricter)

/-- Whether a keyword may become laxer by its subschemas becoming stricter: it asks that they do not
hold, or it decides by them what else is asked, or it bounds how many of them hold. -/
def Place.reverses (p : Place) (keyword : String) : Bool :=
  match keyword with
  | "not" | "oneOf" => true
  | "if" => (p.written.get? "then").isSome || (p.written.get? "else").isSome
  | "contains" =>
    p.scope.draft.atLeast .draft2019 && (p.written.get? "maxContains").isSome
  | _ => false

/-- A tree that is stricter than another one, where references are followed in two ways. -/
def StricterNode (fu fw : Follow) (t l : Node) : Prop := (t.rule fu).Stricter (l.rule fw)

/-- Two entries for the same members, of which the first one is stricter. -/
def StricterEntry (fu fw : Follow) (t l : Selector × Node) : Prop :=
  t.1 = l.1 ∧ StricterNode fu fw t.2 l.2

/-- What is known of a place with keywords that are read, once it is known that everything it asks
of other schemas has become stricter. Its value is treated as a schema, or stays as it is. -/
structure Below (fu fw : Follow) (p : Place) (e : Role) (ms : List (String × Json)) : Prop where
  /-- The keywords. -/
  written_eq : p.written = .obj ms
  /-- What became of them. -/
  used_eq : p.used = e.used (.obj ms)
  /-- How they are treated. -/
  role : e = .schema ∨ e = .data
  /-- They are in order. -/
  sorted : (Json.obj ms).SortedKeys
  /-- No reference hides them. -/
  visible : p.isHidden = false
  /-- Subschemas have become stricter. -/
  stricter : ∀ {k : String} {q : Place}, p.Subschema k q →
    StricterNode fu fw q.target.compile q.source.compile
  /-- Where that would make the keyword around them laxer, they accept what they did. -/
  keeps : ∀ {k : String} {q : Place}, p.Subschema k q → p.reverses k →
    ∀ v, (q.target.compile.rule fu).accepts v = (q.source.compile.rule fw).accepts v
  /-- What references mean has become stricter. -/
  references : ∀ {r : Reference}, p.Refers r → (fu r).Stricter (fw r)

/-! ### Lists of trees -/

section

variable {fu fw : Follow}

theorem rules_stricter {ts ls : List Node} (h : List.Forall₂ (StricterNode fu fw) ts ls) :
    List.Forall₂ Stricter (rules fu ts) (rules fw ls) := by
  rw [rules_eq_map, rules_eq_map, List.forall₂_map_left_iff, List.forall₂_map_right_iff]
  exact h

theorem entryRules_stricter {ts ls : List (Selector × Node)}
    (h : List.Forall₂ (StricterEntry fu fw) ts ls) :
    List.Forall₂ Stricter.Entry (entryRules fu ts) (entryRules fw ls) := by
  rw [entryRules_eq_map, entryRules_eq_map, List.forall₂_map_left_iff, List.forall₂_map_right_iff]
  exact h

theorem rule_isLeaf_stricter {n : Node} (h : n.isLeaf) : StricterNode fu fw n n := by
  cases n with
  | check keyword c => exact Rule.stricter_check keyword c
  | broken e => exact Rule.stricter_always
  | _ => exact Bool.noConfusion h

theorem areLeaves_stricter {ns : List Node} (h : Keyword.AreLeaves ns) :
    List.Forall₂ (StricterNode fu fw) ns ns :=
  List.forall₂_same.mpr fun n hn => rule_isLeaf_stricter (h n hn)

theorem areChecks_stricter {ns : List Node} (h : Keyword.AreChecks (fun _ _ => True) ns) :
    List.Forall₂ (StricterNode fu fw) ns ns :=
  areLeaves_stricter h.areLeaves

theorem dependent_stricter {ts ls : List (Selector × Node)}
    (h : List.Forall₂ (StricterEntry fu fw) ts ls) (keyword : String) :
    StricterNode fu fw (.dependent keyword ts) (.dependent keyword ls) :=
  Stricter.dependent (entryRules_stricter h) keyword

theorem single_stricter {t l : Node} (h : StricterNode fu fw t l) :
    List.Forall₂ (StricterNode fu fw) [t] [l] := .cons h .nil

end

namespace Below

variable {fu fw : Follow} {p : Place} {e : Role} {ms : List (String × Json)}

/-! ### Subschemas -/

theorem subschema (h : Below fu fw p e ms) {k : String} (hk : p.reads k)
    {steps : List Json.Step} (hsteps : leadsToSubschema k steps) {w : Json}
    (hw : (Json.obj ms).at? (.key k :: steps) = some w) {scope : Scope}
    (hs : p.scope.inside w = .ok scope) :
    p.Subschema k ⟨scope, p.position.below (.key k :: steps), w,
      (e.along (.obj ms) (.key k :: steps)).used w⟩ := by
  refine .steps hk hsteps ?_ ?_ hs
  · rw [h.written_eq, hw]
  · rw [h.used_eq, e.at?_used hw]

theorem inside_eq (h : Below fu fw p e ms) {path : List Json.Step} {w : Json}
    (hw : (Json.obj ms).at? path = some w) (r : Role) :
    p.scope.inside (r.used w) = p.scope.inside w :=
  inside_twin p.scope (r.twin (h.sorted.at? hw))

/-- **Subschemas** have become stricter. -/
theorem compile_stricter (h : Below fu fw p e ms) {k : String} (hk : p.reads k)
    {steps : List Json.Step} (hsteps : leadsToSubschema k steps) {w : Json}
    (hw : (Json.obj ms).at? (.key k :: steps) = some w) :
    StricterNode fu fw (compile p.scope ((e.along (.obj ms) (.key k :: steps)).used w))
      (compile p.scope w) := by
  rw [compile_eq, compile_eq, h.inside_eq hw]
  cases hs : p.scope.inside w with
  | error err => exact Rule.stricter_always
  | ok scope => exact h.stricter (h.subschema hk hsteps hw hs)

theorem compile_keeps (h : Below fu fw p e ms) {k : String} (hk : p.reads k) (hr : p.reverses k)
    {steps : List Json.Step} (hsteps : leadsToSubschema k steps) {w : Json}
    (hw : (Json.obj ms).at? (.key k :: steps) = some w) (v : Json) :
    ((compile p.scope ((e.along (.obj ms) (.key k :: steps)).used w)).rule fu).accepts v =
      ((compile p.scope w).rule fw).accepts v := by
  rw [compile_eq, compile_eq, h.inside_eq hw]
  cases hs : p.scope.inside w with
  | error err => rfl
  | ok scope => exact h.keeps (h.subschema hk hsteps hw hs) hr v

/-- The value of a keyword as a schema. -/
theorem whole_stricter (h : Below fu fw p e ms) {k : String} (hk : p.reads k)
    (hd : Holding.ofKeyword k = .direct) {v : Json} (hv : lookup k ms = some v) :
    StricterNode fu fw (compile p.scope ((e.child (.key k) v).used v)) (compile p.scope v) := by
  have hsteps : leadsToSubschema k [] = true := by
    unfold leadsToSubschema
    rw [hd]
  have hchild : (Json.obj ms).child? (.key k) = some v := hv
  have hs := h.compile_stricter hk hsteps (Json.at?_of_child hchild [])
  rw [e.along_of_child hchild] at hs
  exact hs

theorem whole_keeps (h : Below fu fw p e ms) {k : String} (hk : p.reads k) (hr : p.reverses k)
    (hd : Holding.ofKeyword k = .direct) {v : Json} (hv : lookup k ms = some v) (doc : Json) :
    ((compile p.scope ((e.child (.key k) v).used v)).rule fu).accepts doc =
      ((compile p.scope v).rule fw).accepts doc := by
  have hsteps : leadsToSubschema k [] = true := by
    unfold leadsToSubschema
    rw [hd]
  have hchild : (Json.obj ms).child? (.key k) = some v := hv
  have hs := h.compile_keeps hk hr hsteps (Json.at?_of_child hchild []) doc
  rw [e.along_of_child hchild] at hs
  exact hs

/-- What holds of everything that a step from the value of a keyword leads to holds of the items of
that value. -/
theorem items_forall₂ {R : Node → Node → Prop} {k : String} (hd : Holding.ofKeyword k = .direct)
    {v : Json} (hv : lookup k ms = some v)
    (hR : ∀ {steps : List Json.Step} {w : Json}, leadsToSubschema k steps →
      (Json.obj ms).at? (.key k :: steps) = some w →
      R (compile p.scope ((e.along (.obj ms) (.key k :: steps)).used w)) (compile p.scope w)) :
    List.Forall₂ R (compileList p.scope ((e.child (.key k) v).used v)) (compileList p.scope v) := by
  cases v with
  | arr xs =>
    rw [Role.used_arr]
    change List.Forall₂ _ (compileItems p.scope _) (compileItems p.scope xs)
    rw [compileItems_eq_map, compileItems_eq_map, List.map_map, List.forall₂_map_left_iff,
      List.forall₂_map_right_iff, List.forall₂_same]
    intro x hx
    obtain ⟨i, hi⟩ := List.mem_iff_getElem?.mp hx
    have hsteps : leadsToSubschema k [.index i] = true := by
      unfold leadsToSubschema
      rw [hd]
    have hchild : (Json.obj ms).child? (.key k) = some (.arr xs) := hv
    have hitem : (Json.arr xs).child? (.index i) = some x := hi
    have hat : (Json.obj ms).at? [.key k, .index i] = some x := by
      rw [Json.at?_of_child hchild, Json.at?_of_child hitem, Json.at?_nil]
    have hs := hR hsteps hat
    rw [e.along_of_child hchild, Role.along_of_child _ hitem] at hs
    -- The role of an item does not depend on which one it is.
    rw [Role.child_index] at hs
    exact hs
  | obj ns =>
    rw [Role.used_obj]
    exact .nil
  | _ =>
    rw [Role.used_scalar _ rfl rfl]
    exact .nil

theorem items_stricter (h : Below fu fw p e ms) {k : String} (hk : p.reads k)
    (hd : Holding.ofKeyword k = .direct) {v : Json} (hv : lookup k ms = some v) :
    List.Forall₂ (StricterNode fu fw) (compileList p.scope ((e.child (.key k) v).used v))
      (compileList p.scope v) :=
  items_forall₂ hd hv fun hsteps hw => h.compile_stricter hk hsteps hw

theorem items_keeps (h : Below fu fw p e ms) {k : String} (hk : p.reads k) (hr : p.reverses k)
    (hd : Holding.ofKeyword k = .direct) {v : Json} (hv : lookup k ms = some v) :
    List.Forall₂ (fun t l => ∀ doc, (t.rule fu).accepts doc = (l.rule fw).accepts doc)
      (compileList p.scope ((e.child (.key k) v).used v)) (compileList p.scope v) :=
  items_forall₂ hd hv fun hsteps hw => h.compile_keeps hk hr hsteps hw

/-- The members of a value that is no schema itself. -/
theorem members_used {r : Role} (hr : r ≠ .schema) (v : Json) :
    (r.used v).members = r.usedMembers v.members := by
  cases v with
  | obj ns =>
    rw [Role.used_obj, if_neg fun h => hr h.1]
    rfl
  | arr xs =>
    rw [Role.used_arr]
    rfl
  | _ =>
    rw [Role.used_scalar _ rfl rfl]
    rfl

/-- A keyword that maps names to subschemas is not treated as a schema itself. -/
theorem child_ne_schema (h : Below fu fw p e ms) {k : String}
    (hd : Holding.ofKeyword k = .named) (v : Json) : e.child (.key k) v ≠ .schema := by
  have hcarrier : Carrier.ofKeyword k = .named := by
    unfold Holding.ofKeyword at hd
    split at hd
    · next hmem =>
      simp only [List.contains_eq_mem, List.mem_cons, List.not_mem_nil, or_false,
        decide_eq_true_eq] at hmem
      rcases hmem with rfl | rfl | rfl | rfl <;> rfl
    · split at hd <;> cases hd
  rcases h.role with rfl | rfl
  · change Role.ofMember k v ≠ _
    unfold Role.ofMember
    rw [hcarrier]
    exact Role.noConfusion
  · exact Role.noConfusion

/-- The subschemas that a keyword maps names to. -/
theorem members_stricter (h : Below fu fw p e ms) {k : String} (hk : p.reads k)
    (hd : Holding.ofKeyword k = .named) {v : Json} (hv : lookup k ms = some v) :
    List.Forall₂ (fun t l => t.1 = l.1 ∧
        StricterNode fu fw (compile p.scope t.2) (compile p.scope l.2))
      ((e.child (.key k) v).used v).members v.members := by
  rw [members_used (h.child_ne_schema hd v), Role.usedMembers, List.forall₂_map_left_iff,
    List.forall₂_same]
  intro m hm
  refine ⟨rfl, ?_⟩
  cases v with
  | obj ns =>
    have hchild : (Json.obj ms).child? (.key k) = some (.obj ns) := hv
    have hsorted : (Json.obj ns).SortedKeys :=
      h.sorted.at? (Json.at?_of_child hchild [])
    have hsteps : leadsToSubschema k [.key m.1] = true := by
      unfold leadsToSubschema
      rw [hd]
    have hmember : (Json.obj ns).child? (.key m.1) = some m.2 :=
      (Json.lookup_eq_some_iff_mem hsorted.nodup).mpr hm
    have hat : (Json.obj ms).at? [.key k, .key m.1] = some m.2 := by
      rw [Json.at?_of_child hchild, Json.at?_of_child hmember, Json.at?_nil]
    have hs := h.compile_stricter hk hsteps hat
    rw [e.along_of_child hchild, Role.along_of_child _ hmember] at hs
    exact hs
  | _ => exact absurd hm List.not_mem_nil

/-! ### What the used schema says -/

variable {ns : List (String × Json)}

/-- What becomes of the value of a keyword. -/
theorem lookup_used (hns : e.used (.obj ms) = .obj ns) {k : String} {v : Json}
    (hv : lookup k ms = some v) : lookup k ns = some ((e.child (.key k) v).used v) := by
  have hget : (Json.obj ms).get? k = some v := hv
  have hk : k ≠ "additionalProperties" ∨ ((Json.obj ms).get? k).isSome :=
    .inr (by rw [hget]; rfl)
  have hu := e.get?_used hk
  rw [hns, hget] at hu
  exact hu

theorem lookup_used_eq_none (hns : e.used (.obj ms) = .obj ns) {k : String}
    (hk : k ≠ "additionalProperties") (hv : lookup k ms = none) : lookup k ns = none := by
  have hget : (Json.obj ms).get? k = none := hv
  have hu := e.get?_used (j := .obj ms) (.inl hk)
  rw [hns, hget] at hu
  exact hu

theorem isSome_lookup_used (hns : e.used (.obj ms) = .obj ns) {k : String}
    (hk : k ≠ "additionalProperties") : (lookup k ns).isSome = (lookup k ms).isSome := by
  cases hv : lookup k ms with
  | none => rw [lookup_used_eq_none hns hk hv]
  | some v =>
    rw [lookup_used hns hv]
    rfl

theorem lookup_used_of_not_open (hns : e.used (.obj ms) = .obj ns)
    (hopen : ¬ (e = .schema ∧ isOpen ms)) (k : String) :
    lookup k ns = (lookup k ms).map fun v => (e.child (.key k) v).used v := by
  rw [Role.used_obj, if_neg hopen, Json.obj.injEq] at hns
  rw [← hns, Role.lookup_usedMembers]

/-! ### Entries -/

theorem reads (h : Below fu fw p e ms) {k : String}
    (hhas : p.scope.vocabularies.has p.scope.draft k) (happ : p.scope.draft.applies k) :
    p.reads k := by
  unfold Place.reads
  rw [h.visible, hhas, happ]
  rfl

theorem nameEntries_stricter (h : Below fu fw p e ms) {k : String} (hk : p.reads k)
    (hd : Holding.ofKeyword k = .named) {v : Json} (hv : lookup k ms = some v) :
    List.Forall₂ (StricterEntry fu fw)
      (Keyword.nameEntries (subtrees p.scope k ((e.child (.key k) v).used v)))
      (Keyword.nameEntries (subtrees p.scope k v)) := by
  rw [nameEntries_subtrees _ hd, nameEntries_subtrees _ hd, List.forall₂_map_left_iff,
    List.forall₂_map_right_iff]
  exact (h.members_stricter hk hd hv).imp fun t l htl => ⟨congrArg Selector.name htl.1, htl.2⟩

theorem patternEntries_stricter (h : Below fu fw p e ms) (hk : p.reads "patternProperties")
    {v : Json} (hv : lookup "patternProperties" ms = some v) :
    List.Forall₂ (StricterEntry fu fw)
      (Keyword.patternEntries ((e.child (.key "patternProperties") v).used v)
        (subtrees p.scope "patternProperties" ((e.child (.key "patternProperties") v).used v)))
      (Keyword.patternEntries v (subtrees p.scope "patternProperties" v)) := by
  rw [patternEntries_subtrees, patternEntries_subtrees, List.forall₂_map_left_iff,
    List.forall₂_map_right_iff]
  refine (h.members_stricter hk rfl hv).imp fun t l htl => ?_
  rw [htl.1]
  unfold Keyword.patternEntry
  split
  · exact ⟨rfl, htl.2⟩
  · exact ⟨rfl, Rule.stricter_always⟩

/-- The entries of all members that a schema lists. -/
theorem listedEntries_stricter (h : Below fu fw p e ms) (hns : e.used (.obj ms) = .obj ns)
    (hprops : p.reads "properties") (hpatterns : p.reads "patternProperties") :
    List.Forall₂ (StricterEntry fu fw) (Keyword.listedEntries (compileMembers p.scope ns))
      (Keyword.listedEntries (compileMembers p.scope ms)) := by
  unfold Keyword.listedEntries
  simp only [find?_compileMembers]
  refine List.rel_append ?_ ?_
  · cases hv : lookup "properties" ms with
    | none =>
      rw [lookup_used_eq_none hns (by decide) hv]
      exact .nil
    | some v =>
      rw [lookup_used hns hv]
      exact h.nameEntries_stricter hprops rfl hv
  · cases hv : lookup "patternProperties" ms with
    | none =>
      rw [lookup_used_eq_none hns (by decide) hv]
      exact .nil
    | some v =>
      rw [lookup_used hns hv]
      exact h.patternEntries_stricter hpatterns hv

/-! ### Keywords that look at one another -/

/-- Both schemas speak of other members, or neither does. -/
theorem closesMembers_eq (hns : e.used (.obj ms) = .obj ns)
    (hopen : ¬ (e = .schema ∧ isOpen ms)) :
    Keyword.closesMembers (compileMembers p.scope ns) =
      Keyword.closesMembers (compileMembers p.scope ms) := by
  unfold Keyword.closesMembers
  rw [value?_compileMembers, value?_compileMembers, lookup_used_of_not_open hns hopen]
  cases lookup "additionalProperties" ms with
  | none => rfl
  | some v =>
    rw [Option.map_some]
    cases v with
    | obj ms' => rw [Role.used_obj]
    | arr xs => rw [Role.used_arr]
    | _ => rw [Role.used_scalar _ rfl rfl]

theorem additionalParts_stricter (h : Below fu fw p e ms) (hns : e.used (.obj ms) = .obj ns)
    (hhas : p.scope.vocabularies.has p.scope.draft "additionalProperties") {v : Json}
    (hv : lookup "additionalProperties" ms = some v) :
    List.Forall₂ (StricterNode fu fw)
      (Keyword.additionalParts (compileMembers p.scope ns)
        ((e.child (.key "additionalProperties") v).used v)
        (subtrees p.scope "additionalProperties"
          ((e.child (.key "additionalProperties") v).used v)))
      (Keyword.additionalParts (compileMembers p.scope ms) v
        (subtrees p.scope "additionalProperties" v)) := by
  have hentries := entryRules_stricter
    (h.listedEntries_stricter hns (h.reads hhas rfl) (h.reads hhas rfl))
  have hother := h.whole_stricter (h.reads hhas rfl) rfl hv
  rw [subtrees_of_direct rfl, subtrees_of_direct rfl]
  unfold Keyword.additionalParts
  simp only [value?_compileMembers]
  rw [isSome_lookup_used hns (by decide), isSome_lookup_used hns (by decide)]
  -- The value keeps its kind, so both schemas get parts of the same kind.
  cases v with
  | obj ms' =>
    rw [Role.used_obj] at hother ⊢
    exact single_stricter (Stricter.others hentries hother)
  | arr xs =>
    rw [Role.used_arr]
    exact .nil
  | bool b =>
    rw [Role.used_scalar _ rfl rfl]
    cases b with
    | true => exact single_stricter (Stricter.others .nil Rule.stricter_always)
    | false =>
      dsimp only
      split
      · exact single_stricter (Stricter.closed hentries)
      · exact areLeaves_stricter (Keyword.areLeaves_check _ _)
  | _ =>
    rw [Role.used_scalar _ rfl rfl]
    exact .nil

theorem mistyped_stricter (u w : Json) (types : List TypeName) :
    List.Forall₂ (StricterNode fu fw) (Keyword.mistyped u types) (Keyword.mistyped w types) :=
  single_stricter Rule.stricter_always

theorem child_of_carrier (he : e = .schema ∨ e = .data) {k : String}
    (hc : Carrier.ofKeyword k = .data) (v : Json) : e.child (.key k) v = .data := by
  rcases he with rfl | rfl
  · change Role.ofMember k v = .data
    unfold Role.ofMember
    rw [hc]
  · rfl

/-- What is said about a keyword that carries no subschemas stays as it is. -/
theorem lookup_data (h : Below fu fw p e ms) (hns : e.used (.obj ms) = .obj ns) {k : String}
    (hc : Carrier.ofKeyword k = .data) : lookup k ns = lookup k ms := by
  cases hv : lookup k ms with
  | none =>
    refine lookup_used_eq_none hns ?_ hv
    rintro rfl
    cases hc
  | some v => rw [lookup_used hns hv, child_of_carrier h.role hc, Role.used_data]

/-- A keyword whose value is a reference. -/
theorem referenceParts_stricter {k : String} {v : Json}
    (href : ∀ text, v = .str text → (fu ⟨p.scope, k, some text⟩).Stricter (fw ⟨p.scope, k, some text⟩)) :
    List.Forall₂ (StricterNode fu fw) (Keyword.referenceParts p.scope k v)
      (Keyword.referenceParts p.scope k v) := by
  cases v with
  | str text => exact single_stricter (Stricter.ref (href text rfl) k)
  | _ => exact mistyped_stricter _ _ _

/-- As many schemas are listed for the first items. -/
theorem prefixLength_eq (hns : e.used (.obj ms) = .obj ns) :
    Keyword.prefixLength (compileMembers p.scope ns) =
      Keyword.prefixLength (compileMembers p.scope ms) := by
  unfold Keyword.prefixLength
  rw [value?_compileMembers, value?_compileMembers]
  cases hv : lookup "prefixItems" ms with
  | none => rw [lookup_used_eq_none hns (by decide) hv]
  | some v =>
    rw [lookup_used hns hv]
    cases v with
    | arr xs =>
      rw [Role.used_arr]
      exact List.length_map _
    | obj ms' => rw [Role.used_obj]
    | _ => rw [Role.used_scalar _ rfl rfl]

theorem itemParts_stricter (h : Below fu fw p e ms) (hns : e.used (.obj ms) = .obj ns)
    (hk : p.reads "items") {v : Json} (hv : lookup "items" ms = some v) :
    List.Forall₂ (StricterNode fu fw)
      (Keyword.itemParts p.scope.draft (compileMembers p.scope ns)
        ((e.child (.key "items") v).used v)
        (subtrees p.scope "items" ((e.child (.key "items") v).used v)))
      (Keyword.itemParts p.scope.draft (compileMembers p.scope ms) v
        (subtrees p.scope "items" v)) := by
  have hwhole := h.whole_stricter hk rfl hv
  have hitems := rules_stricter (h.items_stricter hk rfl hv)
  have hcovers : ∀ limit, List.Forall₂ (StricterNode fu fw) [.covers limit] [.covers limit] :=
    fun limit => single_stricter (Rule.stricter_covers limit)
  rw [subtrees_of_direct rfl, subtrees_of_direct rfl]
  unfold Keyword.itemParts
  simp only [value?_compileMembers]
  rw [prefixLength_eq hns, isSome_lookup_used hns (by decide)]
  cases v with
  | arr xs =>
    rw [Role.used_arr] at hitems ⊢
    dsimp only
    rw [List.length_map]
    exact .cons (Stricter.tuple hitems "items") (hcovers _)
  | obj ms' =>
    rw [Role.used_obj] at hwhole ⊢
    exact .cons (Stricter.items hwhole "items" _) (hcovers _)
  | bool b =>
    rw [Role.used_scalar _ rfl rfl] at hwhole ⊢
    exact .cons (Stricter.items hwhole "items" _) (hcovers _)
  | _ =>
    rw [Role.used_scalar _ rfl rfl]
    exact hcovers _

theorem additionalItemParts_stricter (h : Below fu fw p e ms) (hns : e.used (.obj ms) = .obj ns)
    (hk : p.reads "additionalItems") {v : Json} (hv : lookup "additionalItems" ms = some v) :
    List.Forall₂ (StricterNode fu fw)
      (Keyword.additionalItemParts (compileMembers p.scope ns)
        ((e.child (.key "additionalItems") v).used v)
        (subtrees p.scope "additionalItems" ((e.child (.key "additionalItems") v).used v)))
      (Keyword.additionalItemParts (compileMembers p.scope ms) v
        (subtrees p.scope "additionalItems" v)) := by
  have hwhole := h.whole_stricter hk rfl hv
  rw [subtrees_of_direct rfl, subtrees_of_direct rfl]
  unfold Keyword.additionalItemParts
  simp only [value?_compileMembers]
  -- What the keyword means depends on the kind of `items` beside it, which stays the same.
  cases hi : lookup "items" ms with
  | none =>
    rw [lookup_used_eq_none hns (by decide) hi]
    exact .nil
  | some w =>
    rw [lookup_used hns hi]
    cases w with
    | arr xs =>
      -- The list keeps its length, so the items behind it are the same.
      rw [Role.used_arr]
      cases v with
      | obj ms' =>
        rw [Role.used_obj] at hwhole ⊢
        dsimp only
        rw [List.length_map]
        exact single_stricter (Stricter.items hwhole "additionalItems" _)
      | arr ys =>
        rw [Role.used_arr]
        exact .nil
      | bool b =>
        rw [Role.used_scalar _ rfl rfl]
        cases b with
        | true => exact .nil
        | false =>
          dsimp only
          rw [List.length_map]
          exact areLeaves_stricter (Keyword.areLeaves_check _ _)
      | _ =>
        rw [Role.used_scalar _ rfl rfl]
        exact .nil
    | obj ms' =>
      rw [Role.used_obj]
      exact .nil
    | bool b =>
      rw [Role.used_scalar _ rfl rfl]
      cases b with
      | true => exact .nil
      | false => exact areLeaves_stricter (Keyword.areLeaves_check _ _)
    | _ =>
      rw [Role.used_scalar _ rfl rfl]
      exact mistyped_stricter _ _ _

theorem matchCount?_eq (h : Below fu fw p e ms) (hns : e.used (.obj ms) = .obj ns) {k : String}
    (hc : Carrier.ofKeyword k = .data) :
    Keyword.matchCount? p.scope.draft (compileMembers p.scope ns) k =
      Keyword.matchCount? p.scope.draft (compileMembers p.scope ms) k := by
  unfold Keyword.matchCount?
  rw [value?_compileMembers, value?_compileMembers, h.lookup_data hns hc]

theorem containsParts_stricter (h : Below fu fw p e ms) (hns : e.used (.obj ms) = .obj ns)
    (hk : p.reads "contains") {v : Json} (hv : lookup "contains" ms = some v) :
    List.Forall₂ (StricterNode fu fw)
      (Keyword.containsParts p.scope.draft (compileMembers p.scope ns)
        (subtrees p.scope "contains" ((e.child (.key "contains") v).used v)))
      (Keyword.containsParts p.scope.draft (compileMembers p.scope ms)
        (subtrees p.scope "contains" v)) := by
  have hwhole := h.whole_stricter hk rfl hv
  rw [subtrees_of_direct rfl, subtrees_of_direct rfl]
  unfold Keyword.containsParts
  rw [h.matchCount?_eq hns rfl, h.matchCount?_eq hns rfl]
  cases hleast : Keyword.matchCount? p.scope.draft (compileMembers p.scope ms) "minContains" with
  | error parts => exact areChecks_stricter (Keyword.areChecks_of_matchCount? hleast)
  | ok least =>
    cases hmost : Keyword.matchCount? p.scope.draft (compileMembers p.scope ms) "maxContains" with
    | error parts => exact areChecks_stricter (Keyword.areChecks_of_matchCount? hmost)
    | ok most =>
      cases most with
      | none => exact single_stricter (Stricter.contains_of_unbounded hwhole least)
      | some n =>
        -- A bound is read only if it is there, in a draft that knows it.
        have hr : p.reverses "contains" := by
          unfold Keyword.matchCount? at hmost
          change (p.scope.draft.atLeast .draft2019 && (p.written.get? "maxContains").isSome) = true
          rw [h.written_eq]
          change (_ && (lookup "maxContains" ms).isSome) = true
          split at hmost
          · next hd =>
            rw [hd, Bool.true_and]
            split at hmost
            · cases hmost
            · next w hw =>
              rw [value?_compileMembers] at hw
              rw [hw]
              rfl
          · cases hmost
        exact single_stricter (Stricter.contains hwhole (h.whole_keeps hk hr rfl hv) least _)

/-- A branch beside a condition. -/
theorem branch_stricter (h : Below fu fw p e ms) (hns : e.used (.obj ms) = .obj ns) {k : String}
    (hk : p.reads k) (hd : Holding.ofKeyword k = .direct) (hne : k ≠ "additionalProperties") :
    StricterNode fu fw (Keyword.branch (compileMembers p.scope ns) k)
      (Keyword.branch (compileMembers p.scope ms) k) := by
  unfold Keyword.branch
  rw [find?_compileMembers, find?_compileMembers]
  cases hv : lookup k ms with
  | none =>
    rw [lookup_used_eq_none hns hne hv]
    exact Rule.stricter_always
  | some v =>
    have hwhole := h.whole_stricter hk hd hv
    rw [lookup_used hns hv, Option.map_some, Option.map_some, Option.elim_some, Option.elim_some,
      subtrees_of_direct hd, subtrees_of_direct hd]
    unfold StricterNode
    rw [rule_all, rule_all]
    refine Stricter.inTurn ?_ ?_
    · intro l hl
      rw [List.map_singleton, List.mem_singleton] at hl
      exact ⟨_, List.mem_singleton_self _, hl ▸ hwhole.entails⟩
    · intro t ht doc
      rw [List.map_singleton, List.mem_singleton] at ht
      subst ht
      exact (hwhole.coverage doc).trans
        (Coverage.within_unions (List.mem_map_of_mem (List.mem_singleton_self _)))

theorem choiceParts_stricter (h : Below fu fw p e ms) (hns : e.used (.obj ms) = .obj ns)
    (hd : p.scope.draft.atLeast .draft7) (hk : p.reads "if") {v : Json}
    (hv : lookup "if" ms = some v) :
    List.Forall₂ (StricterNode fu fw)
      (Keyword.choiceParts (compileMembers p.scope ns)
        (subtrees p.scope "if" ((e.child (.key "if") v).used v)))
      (Keyword.choiceParts (compileMembers p.scope ms) (subtrees p.scope "if" v)) := by
  have hwhole := h.whole_stricter hk rfl hv
  have hnone : ∀ {k : String}, k ≠ "additionalProperties" → lookup k ms = none →
      Keyword.branch (compileMembers p.scope ns) k = .always ∧
        Keyword.branch (compileMembers p.scope ms) k = .always := by
    intro k hne hm
    unfold Keyword.branch
    rw [find?_compileMembers, find?_compileMembers, lookup_used_eq_none hns hne hm, hm]
    exact ⟨rfl, rfl⟩
  rw [subtrees_of_direct rfl, subtrees_of_direct rfl]
  unfold Keyword.choiceParts
  -- The branches are in no group that could be left out.
  have hhas : ∀ {k : String}, Vocabulary.ofKeyword? p.scope.draft k = none →
      p.scope.vocabularies.has p.scope.draft k = true := by
    intro k hk
    unfold Vocabularies.has
    rw [hk, Option.all_none, Bool.or_true]
  by_cases hr : p.reverses "if"
  · refine single_stricter (Stricter.choice hwhole (h.whole_keeps hk hr rfl hv) ?_ ?_)
    · exact h.branch_stricter hns (h.reads (hhas rfl) hd) rfl (by decide)
    · exact h.branch_stricter hns (h.reads (hhas rfl) hd) rfl (by decide)
  · change ¬ ((p.written.get? "then").isSome || (p.written.get? "else").isSome) = true at hr
    rw [h.written_eq, Bool.or_eq_true, not_or, Option.not_isSome_iff_eq_none,
      Option.not_isSome_iff_eq_none] at hr
    obtain ⟨hthen, helse⟩ := hr
    rw [(hnone (by decide) hthen).1, (hnone (by decide) hthen).2, (hnone (by decide) helse).1,
      (hnone (by decide) helse).2]
    exact single_stricter (Stricter.choice_of_noBranches hwhole)

/-- One entry of `dependencies`. A list of names is no list of schemas, and stays as it is. -/
theorem dependencyPart_stricter {r : Role} (hr : r ≠ .items) (name : String) {w : Json}
    {t l : Node} (h : StricterNode fu fw t l) :
    List.Forall₂ (StricterNode fu fw) (Keyword.dependencyPart name (r.used w) t)
      (Keyword.dependencyPart name w l) := by
  have hentry : List.Forall₂ (StricterEntry fu fw) [(.name name, t)] [(.name name, l)] :=
    .cons ⟨rfl, h⟩ .nil
  cases w with
  | arr ns =>
    have hused : r.used (.arr ns) = .arr ns := by
      cases r with
      | items => exact absurd rfl hr
      | _ => rfl
    rw [hused]
    unfold Keyword.dependencyPart
    dsimp only
    split
    · exact areLeaves_stricter (Keyword.areLeaves_check _ _)
    · next hnames => exact areChecks_stricter (Keyword.areChecks_of_nameList hnames)
  | obj ns =>
    rw [Role.used_obj]
    exact single_stricter (dependent_stricter hentry "dependencies")
  | _ =>
    rw [Role.used_scalar _ rfl rfl]
    exact single_stricter (dependent_stricter hentry "dependencies")

theorem dependencyParts_stricter (h : Below fu fw p e ms) (hk : p.reads "dependencies") {v : Json}
    (hv : lookup "dependencies" ms = some v) :
    List.Forall₂ (StricterNode fu fw)
      (Keyword.dependencyParts ((e.child (.key "dependencies") v).used v)
        (subtrees p.scope "dependencies" ((e.child (.key "dependencies") v).used v)))
      (Keyword.dependencyParts v (subtrees p.scope "dependencies" v)) := by
  have hmembers := h.members_stricter hk rfl hv
  rw [dependencyParts_subtrees, dependencyParts_subtrees]
  rw [members_used (h.child_ne_schema rfl v), Role.usedMembers] at hmembers ⊢
  rw [List.forall₂_map_left_iff, List.forall₂_same] at hmembers
  rw [List.flatMap_map]
  refine forall₂_flatMap fun m hm => dependencyPart_stricter ?_ m.1 (hmembers m hm).2
  rcases h.role with rfl | rfl
  · exact Role.noConfusion
  · exact Role.noConfusion

/-! ### One keyword -/

theorem onObject_stricter (r : Role) (v : Json) {ts ls : List Node}
    (h : List.Forall₂ (StricterNode fu fw) ts ls) :
    List.Forall₂ (StricterNode fu fw) (Keyword.onObject (r.used v) ts) (Keyword.onObject v ls) := by
  unfold Keyword.onObject
  rw [Role.isObject_used]
  split
  · exact h
  · exact mistyped_stricter _ _ _

/-- A keyword whose value has to be a list. -/
theorem onList_stricter (r : Role) (v : Json) {ts ls : List Node}
    (h : List.Forall₂ (StricterNode fu fw) ts ls) :
    List.Forall₂ (StricterNode fu fw) (Keyword.onList (r.used v) ts) (Keyword.onList v ls) := by
  unfold Keyword.onList
  cases v with
  | arr xs =>
    rw [Role.used_arr]
    exact h
  | obj ms' =>
    rw [Role.used_obj]
    exact mistyped_stricter _ _ _
  | _ =>
    rw [Role.used_scalar _ rfl rfl]
    exact mistyped_stricter _ _ _

theorem ite_stricter (known : Bool) {ts ls : List Node}
    (h : known = true → List.Forall₂ (StricterNode fu fw) ts ls) :
    List.Forall₂ (StricterNode fu fw) (if known then ts else []) (if known then ls else []) := by
  cases known with
  | true => exact h rfl
  | false => exact .nil

/-- Unless tightening closes the schema, a keyword that lists members has its say in both schemas or
in neither. -/
theorem listing_stricter (hns : e.used (.obj ms) = .obj ns) (hopen : ¬ (e = .schema ∧ isOpen ms))
    (r : Role) (v : Json) {ts ls : List (Selector × Node)}
    (hentries : List.Forall₂ (StricterEntry fu fw) ts ls) :
    List.Forall₂ (StricterNode fu fw)
      (if Keyword.closesMembers (compileMembers p.scope ns) then []
        else Keyword.onObject (r.used v) [.select ts])
      (if Keyword.closesMembers (compileMembers p.scope ms) then []
        else Keyword.onObject v [.select ls]) := by
  rw [closesMembers_eq hns hopen]
  split
  · exact .nil
  · exact onObject_stricter r v (single_stricter (Stricter.select (entryRules_stricter hentries)))

theorem tuple_stricter {ts ls : List Node} (h : List.Forall₂ (StricterNode fu fw) ts ls)
    (keyword : String) :
    List.Forall₂ (StricterNode fu fw) [.tuple keyword ts, .covers (some ts.length)]
      [.tuple keyword ls, .covers (some ls.length)] := by
  have hcovers : StricterNode fu fw (.covers (some ts.length)) (.covers (some ls.length)) := by
    rw [h.length_eq]
    exact Rule.stricter_covers _
  exact .cons (Stricter.tuple (rules_stricter h) keyword) (single_stricter hcovers)

/-- **One keyword** with subschemas brings stricter parts. The keywords for listed members are left
out here where a schema is closed, for then the keyword that closes it speaks for them. -/
theorem applicatorParts_stricter (h : Below fu fw p e ms) (hns : e.used (.obj ms) = .obj ns)
    {k : String}
    (hopen : (e = .schema ∧ isOpen ms) → k ≠ "properties" ∧ k ≠ "patternProperties")
    (hhas : p.scope.vocabularies.has p.scope.draft k) {v : Json} (hv : lookup k ms = some v) :
    List.Forall₂ (StricterNode fu fw)
      (Keyword.applicatorParts p.scope (compileMembers p.scope ns) k
        ((e.child (.key k) v).used v) (subtrees p.scope k ((e.child (.key k) v).used v)))
      (Keyword.applicatorParts p.scope (compileMembers p.scope ms) k v (subtrees p.scope k v)) := by
  unfold Keyword.applicatorParts
  dsimp only
  split
  -- References. Their values stay as they are, and what they mean has become stricter.
  · rw [child_of_carrier h.role rfl, Role.used_data]
    refine referenceParts_stricter fun text ht => h.references (.plain ?_)
    rw [h.written_eq, ← ht]
    exact hv
  · refine ite_stricter _ fun hd => ?_
    rw [child_of_carrier h.role rfl, Role.used_data]
    refine referenceParts_stricter fun text ht => h.references (.dynamic (beq_iff_eq.mp hd) ?_)
    rw [h.written_eq, ← ht]
    exact hv
  · refine ite_stricter _ fun hd => ?_
    refine single_stricter (Stricter.ref (h.references (.recursive (beq_iff_eq.mp hd) ?_)) _)
    rw [h.written_eq]
    change (lookup "$recursiveRef" ms).isSome = true
    rw [hv]
    rfl
  -- Listed members: `properties` and `patternProperties`, here only of a schema that stays open.
  · exact listing_stricter hns (fun ho => (hopen ho).1 rfl) _ v
      (h.nameEntries_stricter (h.reads hhas rfl) rfl hv)
  · exact listing_stricter hns (fun ho => (hopen ho).2 rfl) _ v
      (h.patternEntries_stricter (h.reads hhas rfl) hv)
  -- Other members, and the names of all of them.
  · exact h.additionalParts_stricter hns hhas hv
  · refine ite_stricter _ fun hd => ?_
    have hwhole := h.whole_stricter (h.reads hhas hd) rfl hv
    rw [subtrees_of_direct rfl, subtrees_of_direct rfl]
    rw [child_of_carrier h.role rfl, Role.used_data] at hwhole ⊢
    split
    · exact .nil
    · exact areLeaves_stricter (Keyword.areLeaves_check _ _)
    · exact single_stricter (Stricter.names hwhole)
  -- Items: `items`, `prefixItems`, `additionalItems`, `contains`.
  · exact h.itemParts_stricter hns (h.reads hhas rfl) hv
  · refine ite_stricter _ fun hd => onList_stricter _ v ?_
    have hitems := h.items_stricter (h.reads hhas hd) rfl hv
    rw [subtrees_of_direct rfl, subtrees_of_direct rfl]
    exact tuple_stricter hitems "prefixItems"
  · split
    · exact .nil
    · next hd =>
      have happ : p.scope.draft.applies "additionalItems" = true := by
        change (!(p.scope.draft == .draft2020)) = true
        rw [Bool.not_eq_true', ← Bool.not_eq_true]
        exact hd
      exact h.additionalItemParts_stricter hns (h.reads hhas happ) hv
  · exact ite_stricter _ fun hd => h.containsParts_stricter hns (h.reads hhas hd) hv
  -- Schemas side by side. Of the alternatives of `oneOf` and of what `not` rules out it is not
  -- enough that they have become stricter: they accept what they did.
  · have hitems := h.items_stricter (h.reads hhas rfl) rfl hv
    rw [subtrees_of_direct rfl, subtrees_of_direct rfl]
    exact onList_stricter _ _ (single_stricter (Stricter.allOf (rules_stricter hitems)))
  · have hitems := h.items_stricter (h.reads hhas rfl) rfl hv
    rw [subtrees_of_direct rfl, subtrees_of_direct rfl]
    exact onList_stricter _ _ (single_stricter (Stricter.anyOf (rules_stricter hitems)))
  · have hitems := h.items_stricter (h.reads hhas rfl) rfl hv
    have hkeeps := h.items_keeps (h.reads hhas rfl) rfl rfl hv
    rw [subtrees_of_direct rfl, subtrees_of_direct rfl]
    refine onList_stricter _ _ (single_stricter (Stricter.oneOf (rules_stricter hitems) ?_))
    rw [rules_eq_map, rules_eq_map, List.forall₂_map_left_iff, List.forall₂_map_right_iff]
    exact hkeeps
  · have hkeeps := h.whole_keeps (h.reads hhas rfl) rfl rfl hv
    rw [subtrees_of_direct rfl, subtrees_of_direct rfl]
    exact single_stricter (Stricter.negation hkeeps _ _)
  -- What holds only under a condition: `if`, `dependencies`, `dependentSchemas`.
  · exact ite_stricter _ fun hd => h.choiceParts_stricter hns hd (h.reads hhas hd) hv
  · exact onObject_stricter _ _ (h.dependencyParts_stricter (h.reads hhas rfl) hv)
  · refine ite_stricter _ fun hd => ?_
    have hentries := h.nameEntries_stricter (h.reads hhas hd) rfl hv
    exact onObject_stricter _ _ (single_stricter (dependent_stricter hentries _))
  -- What no other keyword has looked at.
  · refine ite_stricter _ fun hd => ?_
    have hwhole := h.whole_stricter (h.reads hhas hd) rfl hv
    rw [subtrees_of_direct rfl, subtrees_of_direct rfl]
    exact single_stricter (Stricter.unevaluatedMembers hwhole)
  · refine ite_stricter _ fun hd => ?_
    have hwhole := h.whole_stricter (h.reads hhas hd) rfl hv
    rw [subtrees_of_direct rfl, subtrees_of_direct rfl]
    exact single_stricter (Stricter.unevaluatedItems hwhole)
  -- Any other keyword brings no parts.
  · exact .nil

/-! ### All keywords -/

/-- Where nothing is left out, one member of the used schema is stricter than the written one. -/
theorem memberParts_stricter (h : Below fu fw p e ms) (hns : e.used (.obj ms) = .obj ns)
    {k : String}
    (hopen : (e = .schema ∧ isOpen ms) → k ≠ "properties" ∧ k ≠ "patternProperties") {v : Json}
    (hv : lookup k ms = some v) :
    List.Forall₂ (StricterNode fu fw) (memberParts p.scope ns (k, (e.child (.key k) v).used v))
      (memberParts p.scope ms (k, v)) := by
  unfold memberParts Keyword.parts
  dsimp only
  split
  · next hhas =>
    have happlicator := h.applicatorParts_stricter hns hopen hhas hv
    by_cases hc : Carrier.ofKeyword k = .data
    · have hbeside : ∀ key ∈ Keyword.besideChecks, lookup key ns = lookup key ms := by
        intro key hkey
        refine h.lookup_data hns ?_
        simp only [Keyword.besideChecks, List.mem_cons, List.not_mem_nil, or_false] at hkey
        rcases hkey with rfl | rfl | rfl | rfl <;> rfl
      rw [child_of_carrier h.role hc, Role.used_data] at happlicator ⊢
      rw [Keyword.checkParts_congr _ hbeside]
      split
      · next parts hparts => exact areLeaves_stricter (Keyword.checkParts_isLeaf hparts)
      · exact happlicator
    · rw [Keyword.checkParts_of_carrier hc, Keyword.checkParts_of_carrier hc]
      exact happlicator
  · exact .nil

/-- The members of a schema that is not closed. -/
theorem parts_stricter (h : Below fu fw p e ms) (hopen : ¬ (e = .schema ∧ isOpen ms)) :
    List.Forall₂ (StricterNode fu fw)
      ((e.usedMembers ms).flatMap (memberParts p.scope (e.usedMembers ms)))
      (ms.flatMap (memberParts p.scope ms)) := by
  have hns : e.used (.obj ms) = .obj (e.usedMembers ms) := by rw [Role.used_obj, if_neg hopen]
  conv_lhs => rw [Role.usedMembers]
  rw [List.flatMap_map]
  refine forall₂_flatMap fun m hm => ?_
  have hv : lookup m.1 ms = some m.2 := (Json.lookup_eq_some_iff_mem h.sorted.nodup).mpr hm
  exact h.memberParts_stricter hns (fun ho => absurd ho hopen) hv

/-! ### Closed schemas

A schema that is closed asks of its listed members by the keyword that closes it, and no longer by
the keywords that list them. -/

theorem closesMembers_of_none (h : lookup "additionalProperties" ms = none) :
    Keyword.closesMembers (compileMembers p.scope ms) = false := by
  unfold Keyword.closesMembers
  rw [value?_compileMembers, h]

theorem closesMembers_of_false (h : lookup "additionalProperties" ms = some (.bool false)) :
    Keyword.closesMembers (compileMembers p.scope ms) = true := by
  unfold Keyword.closesMembers
  rw [value?_compileMembers, h]

/-- What the listed members have been looked at for is no more than what the keywords that list them
have. -/
theorem membersSeen_listed_within (hopen : isOpen ms)
    (hhas : p.scope.vocabularies.has p.scope.draft "properties") (v : Json) :
    (Rule.membersSeen (entryRules fw (Keyword.listedEntries (compileMembers p.scope ms))) v).Within
      (Rule.joined ((ms.flatMap (memberParts p.scope ms)).map (Node.rule fw)) v) := by
  have hcloses := closesMembers_of_none (p := p) (lookup_additionalProperties_of_isOpen hopen)
  have hpart : ∀ {k : String} {w : Json} {es : List (Selector × Node)}, lookup k ms = some w →
      memberParts p.scope ms (k, w) = [.select es] →
      (Rule.membersSeen (entryRules fw es) v).Within
        (Rule.joined ((ms.flatMap (memberParts p.scope ms)).map (Node.rule fw)) v) := by
    intro k w es hw hes
    have hmem : Node.select es ∈ ms.flatMap (memberParts p.scope ms) :=
      List.mem_flatMap.mpr ⟨(k, w), Json.mem_of_lookup hw, hes ▸ List.mem_singleton_self _⟩
    exact Coverage.within_unions (List.mem_map_of_mem (List.mem_map_of_mem hmem))
  have hnone : (Rule.membersSeen (entryRules fw []) v).Within
      (Rule.joined ((ms.flatMap (memberParts p.scope ms)).map (Node.rule fw)) v) := by
    have hempty : Rule.membersSeen (entryRules fw []) v = .nothing := by
      change Coverage.ofNames ((v.members.filter fun _ => false).map Prod.fst) = _
      rw [List.filter_false]
      rfl
    rw [hempty]
    exact Coverage.nothing_within _
  unfold Keyword.listedEntries
  simp only [find?_compileMembers]
  rw [entryRules_eq_map, List.map_append, ← entryRules_eq_map, ← entryRules_eq_map]
  refine Stricter.membersSeen_append_within ?_ ?_
  · cases hv : lookup "properties" ms with
    | none => exact hnone
    | some w =>
      have hobj : w.isObject := by
        simp only [isOpen, hv, Bool.and_eq_true, Option.any_some] at hopen
        exact hopen.1.2
      refine hpart hv ?_
      rw [memberParts_properties, if_pos hhas, hcloses, if_neg Bool.false_ne_true, Keyword.onObject,
        if_pos hobj]
      rfl
  · cases hv : lookup "patternProperties" ms with
    | none => exact hnone
    | some w =>
      cases hobj : w.isObject with
      | true =>
        have hhas' : p.scope.vocabularies.has p.scope.draft "patternProperties" := hhas
        refine hpart hv ?_
        rw [memberParts_patternProperties, if_pos hhas', hcloses, if_neg Bool.false_ne_true,
          Keyword.onObject, if_pos hobj]
        rfl
      | false =>
        -- What is no object lists nothing.
        have hempty : w.members = [] := by
          cases w with
          | obj vs => exact Bool.noConfusion hobj
          | _ => rfl
        rw [Option.map_some, Option.elim_some, patternEntries_subtrees, hempty]
        exact hnone

theorem entryRules_subset {es les : List (Selector × Node)} (h : es ⊆ les) :
    entryRules fw es ⊆ entryRules fw les := by
  rw [entryRules_eq_map, entryRules_eq_map]
  exact List.map_subset _ h

theorem lookup_closed (hopen : isOpen ms) (hns : Role.schema.used (.obj ms) = .obj ns) :
    lookup "additionalProperties" ns = some (.bool false) ∧ (lookup "properties" ns).isSome := by
  rw [Role.used_schema, tighten_obj, Json.obj.injEq] at hns
  rw [← hns]
  exact ⟨lookup_close_of_isOpen hopen, isSome_lookup_close_properties hopen⟩

/-- A part of a keyword that lists members, if the keyword is read at all, has the part that closes
the schema behind it. -/
theorem exists_entails_of_listing (h : Below fu fw p .schema ms) (hopen : isOpen ms)
    (hns : Role.schema.used (.obj ms) = .obj ns) {known : Bool}
    (hknown : known → p.scope.vocabularies.has p.scope.draft "properties") {v : Json}
    {es : List (Selector × Node)} (hsub : es ⊆ Keyword.listedEntries (compileMembers p.scope ms))
    {l : Node} (hl : l ∈ if known then Keyword.onObject v [.select es] else []) :
    ∃ t ∈ ns.flatMap (memberParts p.scope ns), (t.rule fu).Entails (l.rule fw) := by
  cases known with
  | false => exact absurd hl List.not_mem_nil
  | true =>
    have hhas := hknown rfl
    obtain ⟨hclosed, hprops⟩ := lookup_closed hopen hns
    have hpart := closed_mem_memberParts hhas hprops hclosed
    have hentries := entryRules_stricter
      (h.listedEntries_stricter hns (h.reads hhas rfl) (h.reads hhas rfl))
    refine ⟨_, hpart, ?_⟩
    rw [if_pos rfl] at hl
    unfold Keyword.onObject at hl
    split at hl
    · obtain rfl := List.mem_singleton.mp hl
      exact Stricter.closed_entails_select hentries (entryRules_subset hsub)
    · -- A value that lists nothing is an unusable keyword, and asks for nothing.
      obtain rfl := List.mem_singleton.mp hl
      exact fun _ _ _ => rfl

/-- Every part of an open schema has a part of the closed one behind it. -/
theorem exists_entails_of_open (h : Below fu fw p .schema ms) (hopen : isOpen ms)
    (hns : Role.schema.used (.obj ms) = .obj ns) {l : Node}
    (hl : l ∈ ms.flatMap (memberParts p.scope ms)) :
    ∃ t ∈ ns.flatMap (memberParts p.scope ns), (t.rule fu).Entails (l.rule fw) := by
  have hnot := closesMembers_of_none (p := p) (lookup_additionalProperties_of_isOpen hopen)
  obtain ⟨⟨k, v⟩, hm, hl⟩ := List.mem_flatMap.mp hl
  have hv : lookup k ms = some v := (Json.lookup_eq_some_iff_mem h.sorted.nodup).mpr hm
  by_cases hk : k = "properties" ∨ k = "patternProperties"
  · rcases hk with rfl | rfl
    · rw [memberParts_properties, hnot, if_neg Bool.false_ne_true] at hl
      refine h.exists_entails_of_listing hopen hns id ?_ hl
      unfold Keyword.listedEntries
      rw [find?_compileMembers, hv]
      exact List.subset_append_left _ _
    · rw [memberParts_patternProperties, hnot, if_neg Bool.false_ne_true] at hl
      refine h.exists_entails_of_listing hopen hns id ?_ hl
      unfold Keyword.listedEntries
      rw [find?_compileMembers _ _ "patternProperties", hv]
      exact List.subset_append_right _ _
  · -- Any other keyword is there as before, with subschemas that have become stricter.
    obtain ⟨t, ht, hs⟩ :=
      exists_of_mem_right (h.memberParts_stricter hns (fun _ => not_or.mp hk) hv) hl
    refine ⟨t, List.mem_flatMap.mpr ⟨_, ?_, ht⟩, hs.entails⟩
    exact Json.mem_of_lookup (lookup_used hns hv)

/-- No part of a closed schema has looked at more than all parts of the open one. -/
theorem coverage_within_of_open (h : Below fu fw p .schema ms) (hopen : isOpen ms)
    (hns : Role.schema.used (.obj ms) = .obj ns) {t : Node}
    (ht : t ∈ ns.flatMap (memberParts p.scope ns)) (doc : Json) :
    ((t.rule fu).coverage doc).Within
      (Rule.joined ((ms.flatMap (memberParts p.scope ms)).map (Node.rule fw)) doc) := by
  obtain ⟨hclosed, hprops⟩ := lookup_closed hopen hns
  have hcloses := closesMembers_of_false (p := p) hclosed
  obtain ⟨m, hm, ht⟩ := List.mem_flatMap.mp ht
  have hmembers : m = ("additionalProperties", .bool false) ∨ m ∈ Role.schema.usedMembers ms := by
    rw [Role.used_obj, if_pos ⟨rfl, hopen⟩, Json.obj.injEq] at hns
    rw [← hns] at hm
    exact Json.mem_insert hm
  rcases hmembers with rfl | hused
  · -- The keyword that closes the schema looks at what is listed, and at nothing else.
    by_cases hhas : p.scope.vocabularies.has p.scope.draft "properties" = true
    · rw [memberParts_closed hhas hprops, List.mem_singleton] at ht
      subst ht
      have hentries := entryRules_stricter
        (h.listedEntries_stricter hns (h.reads hhas rfl) (h.reads hhas rfl))
      exact (Stricter.membersSeen hentries doc).trans (membersSeen_listed_within hopen hhas doc)
    · have hnone : memberParts p.scope ns ("additionalProperties", .bool false) = [] := by
        unfold memberParts Keyword.parts
        exact if_neg hhas
      rw [hnone] at ht
      exact absurd ht List.not_mem_nil
  · obtain ⟨⟨k, w⟩, hw, rfl⟩ := List.mem_map.mp hused
    dsimp only at ht
    by_cases hk : k = "properties" ∨ k = "patternProperties"
    · -- The keywords that list members leave it to the one that closes the schema.
      have hnone : memberParts p.scope ns (k, (Role.schema.child (.key k) w).used w) = [] := by
        rcases hk with rfl | rfl
        · rw [memberParts_properties, hcloses, if_pos rfl, ite_self]
        · rw [memberParts_patternProperties, hcloses, if_pos rfl, ite_self]
      rw [hnone] at ht
      exact absurd ht List.not_mem_nil
    · have hv : lookup k ms = some w := (Json.lookup_eq_some_iff_mem h.sorted.nodup).mpr hw
      obtain ⟨l, hl, hs⟩ :=
        exists_of_mem_left (h.memberParts_stricter hns (fun _ => not_or.mp hk) hv) ht
      refine (hs.coverage doc).trans (Coverage.within_unions (List.mem_map_of_mem ?_))
      exact List.mem_map_of_mem (List.mem_flatMap.mpr ⟨_, hw, hl⟩)

/-- **Closing** makes a schema stricter, and what it has looked at no more. -/
theorem inTurn_stricter_of_open (h : Below fu fw p .schema ms) (hopen : isOpen ms)
    (hns : Role.schema.used (.obj ms) = .obj ns) :
    (Rule.inTurn ((ns.flatMap (memberParts p.scope ns)).map (Node.rule fu))).Stricter
      (Rule.inTurn ((ms.flatMap (memberParts p.scope ms)).map (Node.rule fw))) := by
  refine Stricter.inTurn ?_ ?_
  · intro l hl
    obtain ⟨l, hmem, rfl⟩ := List.mem_map.mp hl
    obtain ⟨t, ht, htl⟩ := h.exists_entails_of_open hopen hns hmem
    exact ⟨t.rule fu, List.mem_map_of_mem ht, htl⟩
  · intro t ht doc
    obtain ⟨t, hmem, rfl⟩ := List.mem_map.mp ht
    exact h.coverage_within_of_open hopen hns hmem doc

/-! ### The place itself -/

/-- **Places.** Where everything that a place asks of other schemas has become stricter, so has the
place. -/
theorem stricter_self (h : Below fu fw p e ms) :
    StricterNode fu fw p.target.compile p.source.compile := by
  obtain ⟨ns, hns⟩ : ∃ ns, e.used (.obj ms) = .obj ns := ⟨_, e.used_obj ms⟩
  have hvisible := h.visible
  unfold Place.isHidden at hvisible
  rw [h.written_eq] at hvisible
  have hvisible' : (p.scope.draft.referenceHidesSiblings && (lookup "$ref" ns).isSome) = false := by
    rw [h.lookup_data hns rfl]
    exact hvisible
  unfold Place.target Place.source
  rw [h.used_eq, h.written_eq, hns, compile_obj hvisible, compile_obj hvisible']
  unfold StricterNode
  rw [rule_all, rule_all]
  by_cases hopen : e = .schema ∧ isOpen ms
  · obtain ⟨rfl, hopen⟩ := hopen
    exact h.inTurn_stricter_of_open hopen hns
  · refine Stricter.inTurn_of_forall₂ ?_
    rw [Role.used_obj, if_neg hopen, Json.obj.injEq] at hns
    rw [← hns, List.forall₂_map_left_iff, List.forall₂_map_right_iff]
    exact h.parts_stricter hopen

end Below

end DocCheck.Schema
