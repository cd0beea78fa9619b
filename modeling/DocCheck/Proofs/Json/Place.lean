import DocCheck.Json.Pointer
import DocCheck.Proofs.Json.Members

/-!
# Places in a JSON value

A path of steps leads to a place in a value, if every step fits what it leads into: the key of a
member there is into an object, the index of an item into an array.

* `child?`, `at?` — what a step and a path lead to;
* `child?_member` — the members of a value;
* `everywhere`, `test_at?` — what holds of every value inside holds along every path;
* `eq_of_top_at?` — a value is what can be seen of it along all paths.
-/

namespace DocCheck.Json

/-- The value that one step leads to. -/
def child? : Json → Step → Option Json
  | .obj ms, .key k => lookup k ms
  | .arr xs, .index i => xs[i]?
  | _, _ => none

/-- The value that a path leads to. -/
def at? (j : Json) : List Step → Option Json
  | [] => some j
  | s :: rest => (j.child? s).bind fun c => c.at? rest

@[simp] theorem at?_nil (j : Json) : j.at? [] = some j := rfl

theorem at?_cons (j : Json) (s : Step) (rest : List Step) :
    j.at? (s :: rest) = (j.child? s).bind fun c => c.at? rest := rfl

theorem at?_of_child {j c : Json} {s : Step} (h : j.child? s = some c) (rest : List Step) :
    j.at? (s :: rest) = c.at? rest := by
  rw [at?_cons, h, Option.bind_some]

theorem at?_singleton (j : Json) (s : Step) : j.at? [s] = j.child? s := by
  rw [at?_cons]
  cases j.child? s <;> rfl

/-- A path that goes on leads on from where its first part leads. -/
theorem at?_append (j : Json) (path rest : List Step) :
    j.at? (path ++ rest) = (j.at? path).bind fun c => c.at? rest := by
  induction path generalizing j with
  | nil => rfl
  | cons s path ih =>
    rw [List.cons_append, at?_cons, at?_cons]
    cases j.child? s with
    | none => rfl
    | some c => exact ih c

/-- One more step leads on from where the path leads. -/
theorem at?_concat (j : Json) (path : List Step) (s : Step) :
    j.at? (path ++ [s]) = (j.at? path).bind fun c => c.child? s := by
  rw [at?_append]
  cases j.at? path with
  | none => rfl
  | some c => exact at?_singleton c s

theorem child?_member {ms : List (String × Json)} (h : SortedKeys (.obj ms)) {m : String × Json}
    (hm : m ∈ ms) : child? (.obj ms) (.key m.1) = some m.2 :=
  (lookup_eq_some_iff_mem h.nodup).mpr hm

/-- What a step leads to in a value in order is in order. -/
theorem SortedKeys.child {j c : Json} {s : Step} (hj : j.SortedKeys) (h : j.child? s = some c) :
    c.SortedKeys := by
  cases j with
  | obj ms =>
    cases s with
    | index i => exact nomatch h
    | key k => exact hj.member (mem_of_lookup h)
  | arr xs =>
    cases s with
    | key k => exact nomatch h
    | index i => exact hj.item (List.mem_of_getElem? h)
  | _ => exact nomatch h

/-- What a path leads to in a value in order is in order. -/
theorem SortedKeys.at? {j c : Json} {path : List Step} (hj : j.SortedKeys)
    (h : j.at? path = some c) : c.SortedKeys := by
  induction path generalizing j with
  | nil =>
    cases h
    exact hj
  | cons s rest ih =>
    rw [at?_cons] at h
    obtain ⟨d, hd, hc⟩ := Option.bind_eq_some_iff.mp h
    exact ih (hj.child hd) hc

/-! ### Every value inside -/

mutual

/-- Whether a test is passed by a value and everything inside it. -/
def everywhere (test : Json → Bool) : Json → Bool
  | .arr xs => test (.arr xs) && everywhereItems test xs
  | .obj ms => test (.obj ms) && everywhereMembers test ms
  | j => test j
  termination_by structural j => j

/-- `everywhere` in each item. -/
def everywhereItems (test : Json → Bool) : List Json → Bool
  | [] => true
  | x :: xs => everywhere test x && everywhereItems test xs
  termination_by structural xs => xs

/-- `everywhere` in the value of each member. -/
def everywhereMembers (test : Json → Bool) : List (String × Json) → Bool
  | [] => true
  | m :: ms => everywhereMember test m && everywhereMembers test ms
  termination_by structural ms => ms

/-- `everywhere` in the value of a member. -/
def everywhereMember (test : Json → Bool) : String × Json → Bool
  | (_, v) => everywhere test v
  termination_by structural m => m

end

theorem everywhereItems_eq_all (test : Json → Bool) (xs : List Json) :
    everywhereItems test xs = xs.all (everywhere test) := by
  induction xs with
  | nil => rfl
  | cons x rest ih => rw [everywhereItems, ih, List.all_cons]

theorem everywhereMembers_eq_all (test : Json → Bool) (ms : List (String × Json)) :
    everywhereMembers test ms = ms.all fun m => everywhere test m.2 := by
  induction ms with
  | nil => rfl
  | cons m rest ih =>
    obtain ⟨k, v⟩ := m
    rw [everywhereMembers, ih, List.all_cons]
    rfl

theorem test_of_everywhere {test : Json → Bool} {j : Json} (h : everywhere test j = true) :
    test j = true := by
  cases j with
  | arr xs => exact (Bool.and_eq_true_iff.mp h).1
  | obj ms => exact (Bool.and_eq_true_iff.mp h).1
  | _ => exact h

theorem everywhere_child {test : Json → Bool} {j c : Json} {s : Step}
    (h : everywhere test j = true) (hc : j.child? s = some c) : everywhere test c = true := by
  cases j with
  | arr xs =>
    have hitems := (Bool.and_eq_true_iff.mp h).2
    rw [everywhereItems_eq_all, List.all_eq_true] at hitems
    cases s with
    | key k => exact nomatch hc
    | index i => exact hitems c (List.mem_of_getElem? hc)
  | obj ms =>
    have hmembers := (Bool.and_eq_true_iff.mp h).2
    rw [everywhereMembers_eq_all, List.all_eq_true] at hmembers
    cases s with
    | index i => exact nomatch hc
    | key k => exact hmembers (k, c) (mem_of_lookup hc)
  | _ => exact nomatch hc

/-- What every value passes is passed by what a path leads to. -/
theorem test_at? {test : Json → Bool} {j v : Json} {path : List Step}
    (h : everywhere test j = true) (hv : j.at? path = some v) : test v = true := by
  induction path generalizing j with
  | nil =>
    cases hv
    exact test_of_everywhere h
  | cons s rest ih =>
    rw [at?_cons] at hv
    obtain ⟨c, hc, hv⟩ := Option.bind_eq_some_iff.mp hv
    exact ih (everywhere_child h hc) hv

/-! ### Values along their paths -/

/-- What can be seen of a value at its own place: its kind, and for one without parts the value. -/
def top : Json → Json
  | .arr _ => .arr []
  | .obj _ => .obj []
  | j => j

/-- Objects in order with the same value under every key have the same members. -/
theorem members_eq_of_lookup {ms ns : List (String × Json)} (hms : SortedKeys (.obj ms))
    (hns : SortedKeys (.obj ns)) (h : ∀ key, lookup key ms = lookup key ns) : ms = ns := by
  have hmem : ∀ m, m ∈ ms ↔ m ∈ ns := by
    intro m
    rw [← lookup_eq_some_iff_mem hms.nodup, ← lookup_eq_some_iff_mem hns.nodup, h]
  have hnodup : ∀ {members : List (String × Json)}, SortedKeys (.obj members) → members.Nodup := by
    intro members hmembers
    refine hmembers.1.imp fun {a b} hab he => ?_
    rw [he] at hab
    exact String.lt_irrefl _ hab
  have hperm : ms.Perm ns := (List.perm_ext_iff_of_nodup (hnodup hms) (hnodup hns)).mpr hmem
  refine hperm.eq_of_pairwise (fun a b _ _ hab hba => ?_) hms.1 hns.1
  exact absurd hba (String.lt_asymm hab)

/-- A step leads to the same value in both, if it does so once the same can be seen along all paths
from there. -/
theorem child?_eq_of_top_at? {a b : Json} {s : Step}
    (h : ∀ path, (a.at? (s :: path)).map top = (b.at? (s :: path)).map top)
    (heq : ∀ x y, a.child? s = some x → b.child? s = some y →
      (∀ path, (x.at? path).map top = (y.at? path).map top) → x = y) :
    a.child? s = b.child? s := by
  have hnil := h []
  rw [at?_cons, at?_cons] at hnil
  cases hx : a.child? s with
  | none =>
    cases hy : b.child? s with
    | none => rfl
    | some y =>
      rw [hx, hy] at hnil
      cases hnil
  | some x =>
    cases hy : b.child? s with
    | none =>
      rw [hx, hy] at hnil
      cases hnil
    | some y =>
      refine congrArg some (heq x y hx hy fun path => ?_)
      rw [← at?_of_child hx, ← at?_of_child hy]
      exact h path

/-- **A value along its paths.** Two values in order are equal if along every path the same can be
seen in both of them. -/
theorem eq_of_top_at? {a b : Json} (ha : a.SortedKeys) (hb : b.SortedKeys)
    (h : ∀ path, (a.at? path).map top = (b.at? path).map top) : a = b := by
  have htop : a.top = b.top := Option.some.inj (h [])
  induction a using Json.induct generalizing b with
  | scalar j harray hobject =>
    -- Without parts, a value is what can be seen of it.
    cases j with
    | arr xs => cases harray
    | obj ms => cases hobject
    | _ =>
      cases b with
      | arr ys => cases htop
      | obj ns => cases htop
      | _ => exact htop
  | arr xs ih =>
    cases b with
    | arr ys =>
      refine congrArg arr (List.ext_getElem? fun i => ?_)
      refine child?_eq_of_top_at? (a := .arr xs) (b := .arr ys) (s := .index i)
        (fun path => h (.index i :: path)) fun x y hx hy hxy => ?_
      exact ih x (List.mem_of_getElem? hx) (ha.child hx) (hb.child hy) hxy
        (Option.some.inj (hxy []))
    | _ => cases htop
  | obj ms ih =>
    cases b with
    | obj ns =>
      refine congrArg obj (members_eq_of_lookup ha hb fun key => ?_)
      refine child?_eq_of_top_at? (a := .obj ms) (b := .obj ns) (s := .key key)
        (fun path => h (.key key :: path)) fun x y hx hy hxy => ?_
      exact ih (key, x) (mem_of_lookup hx) (ha.child hx) (hb.child hy) hxy
        (Option.some.inj (hxy []))
    | _ => cases htop

end DocCheck.Json
