import DocCheck.Json.Reader
import DocCheck.Proofs.Json.Members

/-!
# Values that were read are in order

Members are put into an object one by one, each in its place, so in a value that was read from a
text the keys of every object are strictly increasing.

* `sortedKeys_ofMembers` — an object made of members is in order;
* `read_sortedKeys` — so is every value that was read.
-/

namespace DocCheck.Json

/-! ### Inserting -/

variable {key : String} {value : Json} {ms : List (String × Json)}

theorem mem_insert {m : String × Json} (h : m ∈ insert key value ms) :
    m = (key, value) ∨ m ∈ ms := by
  induction ms with
  | nil => exact .inl (List.mem_singleton.mp h)
  | cons n rest ih =>
    obtain ⟨k, w⟩ := n
    unfold insert at h
    split at h
    · rcases List.mem_cons.mp h with rfl | hr
      · exact .inl rfl
      · exact .inr (List.mem_cons_of_mem _ hr)
    split at h
    · exact List.mem_cons.mp h
    · rcases List.mem_cons.mp h with rfl | hr
      · exact .inr List.mem_cons_self
      · exact (ih hr).imp id (List.mem_cons_of_mem _)

/-- A member is put in its place. -/
theorem pairwise_insert (h : ms.Pairwise fun a b => a.1 < b.1) :
    (insert key value ms).Pairwise fun a b => a.1 < b.1 := by
  induction ms with
  | nil => exact List.pairwise_singleton _ _
  | cons n rest ih =>
    obtain ⟨k, w⟩ := n
    obtain ⟨hfirst, hrest⟩ := List.pairwise_cons.mp h
    unfold insert
    split
    · next hk =>
      subst hk
      exact List.pairwise_cons.mpr ⟨hfirst, hrest⟩
    split
    · next hlt =>
      refine List.pairwise_cons.mpr ⟨fun b hb => ?_, h⟩
      rcases List.mem_cons.mp hb with rfl | hb
      · exact hlt
      · exact String.lt_trans hlt (hfirst b hb)
    · next hne hnlt =>
      refine List.pairwise_cons.mpr ⟨fun b hb => ?_, ih hrest⟩
      rcases mem_insert hb with rfl | hb
      · refine Classical.byContradiction fun hn => hne ?_
        exact String.le_antisymm (String.not_lt.mp hnlt) (String.not_lt.mp hn)
      · exact hfirst b hb

theorem SortedKeys.insert (h : SortedKeys (.obj ms)) (hv : value.SortedKeys) :
    SortedKeys (.obj (insert key value ms)) := by
  refine ⟨pairwise_insert h.1, sortedMembers_iff.mpr fun m hm => ?_⟩
  rcases mem_insert hm with rfl | hm
  · exact hv
  · exact h.member hm

/-- **Objects.** An object made of members is in order. -/
theorem sortedKeys_ofMembers (h : ∀ m ∈ ms, m.2.SortedKeys) : (ofMembers ms).SortedKeys := by
  have hfold : ∀ acc, SortedKeys (.obj acc) →
      SortedKeys (.obj (ms.foldl (fun acc m => Json.insert m.1 m.2 acc) acc)) := by
    -- The accumulator is in order all along; only its start is known here.
    induction ms with
    | nil => exact fun acc hacc => hacc
    | cons m rest ih =>
      intro acc hacc
      exact ih (fun n hn => h n (List.mem_cons_of_mem _ hn)) _
        (hacc.insert (h m List.mem_cons_self))
  exact hfold [] ⟨List.Pairwise.nil, trivial⟩

/-! ### Reading -/

/-- What is read, if anything is, has a property. -/
def Gives {α : Type} (P : α → Prop) (x : Except JsonError (α × Cursor)) : Prop :=
  ∀ a c, x = .ok (a, c) → P a

section
variable {α β : Type} {P : α → Prop} {Q : β → Prop}

theorem gives_ok {a : α} {c : Cursor} (h : P a) : Gives P (.ok (a, c)) := by
  intro b c' he
  cases he
  exact h

theorem gives_fail (c : Cursor) (fault : JsonFault) : Gives P (c.fail fault) := by
  intro a c' he
  cases he

theorem gives_failAhead (c : Cursor) (fault : JsonFault) : Gives P (c.failAhead fault) := by
  intro a c' he
  unfold Cursor.failAhead Cursor.failAfter at he
  cases he

theorem gives_bind {x : Except JsonError (α × Cursor)}
    {f : α × Cursor → Except JsonError (β × Cursor)} (hx : Gives P x)
    (hf : ∀ a c, P a → Gives Q (f (a, c))) : Gives Q (x >>= f) := by
  intro b c' he
  cases hxe : x with
  | error e =>
    rw [hxe] at he
    cases he
  | ok p =>
    rw [hxe] at he
    exact hf p.1 p.2 (hx p.1 p.2 hxe) b c' he

/-- Nothing need be known of what comes before. -/
theorem gives_of_bind {x : Except JsonError (α × Cursor)}
    {f : α × Cursor → Except JsonError (β × Cursor)} (hf : ∀ p, Gives Q (f p)) :
    Gives Q (x >>= f) :=
  gives_bind (P := fun _ => True) (fun _ _ _ => trivial) fun a c _ => hf (a, c)

end

theorem gives_readName {value : Json} (hv : value.SortedKeys) (cs : List Char) (c : Cursor) :
    Gives SortedKeys (readName value cs c) := by
  induction cs generalizing c with
  | nil => exact gives_ok hv
  | cons ch rest ih =>
    unfold readName
    split
    · exact gives_fail _ _
    split
    · exact ih _
    · exact gives_failAhead _ _

/-- A scalar is in order. -/
theorem gives_scalar {α : Type} {x : Except JsonError (α × Cursor)} {f : α → Json}
    (hf : ∀ a, (f a).SortedKeys) :
    Gives SortedKeys (x.map fun (p : α × Cursor) => (f p.1, p.2)) := by
  intro v c he
  cases x with
  | error e => cases he
  | ok p =>
    cases he
    exact hf p.1

/-- What the four readers give with so much fuel is in order. -/
structure ReadersSorted (fuel : Nat) : Prop where
  value : ∀ depth c, Gives SortedKeys (readValue fuel depth c)
  items : ∀ depth before c, (∀ x ∈ before, x.SortedKeys) →
    Gives SortedKeys (readItems fuel depth before c)
  members : ∀ depth (before : List (String × Json)) c, (∀ m ∈ before, m.2.SortedKeys) →
    Gives SortedKeys (readMembers fuel depth before c)
  member : ∀ depth c, Gives (fun m => m.2.SortedKeys) (readMember fuel depth c)

/-- More fuel reads only values in order if less does: a reader calls the others with one less. -/
theorem ReadersSorted.succ {fuel : Nat} (ih : ReadersSorted fuel) : ReadersSorted (fuel + 1) where
  value := by
    intro depth c
    unfold readValue
    dsimp only
    split
    · exact gives_failAhead _ _
    · refine gives_readName ?_ _ _
      exact trivial
    · refine gives_readName ?_ _ _
      exact trivial
    · refine gives_readName ?_ _ _
      exact trivial
    · exact gives_scalar fun n => trivial
    · exact gives_scalar fun s => trivial
    -- Lists and objects are left to their own readers, unless they stand too deep.
    · split
      · exact gives_failAhead _ _
      · exact ih.items _ _ _ fun x hx => nomatch hx
    · split
      · exact gives_failAhead _ _
      · exact ih.members _ _ _ fun m hm => nomatch hm
    · split
      · exact gives_scalar fun n => trivial
      · exact gives_failAhead _ _
  items := by
    intro depth before c hb
    unfold readItems
    dsimp only
    split
    · exact gives_failAhead _ _
    · exact gives_ok (sortedItems_iff.mpr fun x hx => hb x (List.mem_reverse.mp hx))
    · split
      · exact gives_failAhead _ _
      · exact gives_failAhead _ _
      -- After a comma: the items read so far are in order, and the next one is.
      · refine gives_bind (ih.value _ _) fun v c hv => ih.items _ _ _ fun x hx => ?_
        rcases List.mem_cons.mp hx with rfl | hx
        · exact hv
        · exact hb x hx
    · refine gives_bind (ih.value _ _) fun v c hv => ih.items _ _ _ fun x hx => ?_
      rw [List.mem_singleton.mp hx]
      exact hv
    · exact gives_failAhead _ _
  members := by
    intro depth before c hb
    unfold readMembers
    dsimp only
    split
    · exact gives_failAhead _ _
    -- Members come in the order of the text; the object that is made of them is in order.
    · exact gives_ok (sortedKeys_ofMembers fun m hm => hb m (List.mem_reverse.mp hm))
    · split
      · exact gives_failAhead _ _
      · exact gives_failAhead _ _
      · refine gives_bind (ih.member _ _) fun m c hm => ih.members _ _ _ fun n hn => ?_
        rcases List.mem_cons.mp hn with rfl | hn
        · exact hm
        · exact hb n hn
    · refine gives_bind (ih.member _ _) fun m c hm => ih.members _ _ _ fun n hn => ?_
      rw [List.mem_singleton.mp hn]
      exact hm
    · exact gives_failAhead _ _
  member := by
    intro depth c
    unfold readMember
    split
    -- The name may be any text.
    · refine gives_of_bind fun p => ?_
      dsimp only
      split
      · exact gives_bind (ih.value _ _) fun v c hv => gives_ok hv
      · exact gives_failAhead _ _
      · exact gives_failAhead _ _
    · exact gives_failAhead _ _

theorem readersSorted (fuel : Nat) : ReadersSorted fuel := by
  induction fuel with
  | zero =>
    exact ⟨fun _ _ => gives_failAhead _ _, fun _ _ _ _ => gives_failAhead _ _,
      fun _ _ _ _ => gives_failAhead _ _, fun _ _ => gives_failAhead _ _⟩
  | succ fuel ih => exact ih.succ

/-- **Reading.** A value that was read from a text is in order. -/
theorem read_sortedKeys {text : String} {v : Json} (h : read text = .ok v) : v.SortedKeys := by
  unfold read at h
  dsimp only at h
  cases hr : readValue (2 * text.toList.length + 3) deepest (.ofList text.toList) with
  | error e =>
    rw [hr] at h
    cases h
  | ok p =>
    obtain ⟨found, rest⟩ := p
    have hv := (readersSorted _).value _ _ found rest hr
    rw [hr] at h
    dsimp only [bind, Except.bind] at h
    split at h
    · cases h
      exact hv
    · unfold Cursor.failAhead Cursor.failAfter at h
      cases h

end DocCheck.Json
