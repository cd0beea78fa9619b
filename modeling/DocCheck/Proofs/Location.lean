import DocCheck.Location
import DocCheck.Proofs.Json.Place
import DocCheck.Proofs.Json.Pointer
import DocCheck.Proofs.Json.Printer

/-!
# Locations on one line

A location writes a key without quotes only if it is an identifier, and the text of a step as it is
only as the index of an item. Along a path that leads into the document an index has digits only, so
that the location is a line whatever the keys of the document are.

* `isLine_member`, `isLine_walk_none` — keys;
* `isLine_ofPointer` — a path into the document.
-/

namespace DocCheck.Location

open Json (Step)
open Text (IsLine isLine_nil isLine_cons isLine_append)

/-! ### Keys -/

theorem isIdentifierStart_ne {c : Char} (h : isIdentifierStart c) : c ≠ '\n' := by
  rintro rfl
  exact absurd h (by decide)

/-- An identifier is a line. -/
theorem isLine_of_isIdentifier {key : List Char} (h : isIdentifier key) : IsLine key := by
  cases key with
  | nil => exact isLine_nil
  | cons c cs =>
    obtain ⟨hc, hcs⟩ := Bool.and_eq_true_iff.mp h
    refine isLine_cons.mpr ⟨isIdentifierStart_ne hc, fun hmem => ?_⟩
    exact absurd (List.all_eq_true.mp hcs _ hmem) (by decide)

/-- **Keys.** Any key is written on one line. -/
theorem isLine_member (key : List Char) : IsLine (member key) := by
  unfold member
  split
  · next h => exact isLine_cons.mpr ⟨by decide, isLine_of_isIdentifier h⟩
  · exact isLine_cons.mpr ⟨by decide, isLine_append.mpr ⟨Json.isLine_quoteChars key, by decide⟩⟩

/-- Outside the document all steps are keys. -/
theorem isLine_walk_none (steps : List (List Char)) : IsLine (walk none steps) := by
  induction steps with
  | nil => exact isLine_nil
  | cons s rest ih => exact isLine_append.mpr ⟨isLine_member s, ih⟩

/-! ### Paths -/

/-- A step to a member writes its key. -/
theorem walk_key {ms : List (String × Json)} {name : String} {d : Json}
    (h : Json.child? (.obj ms) (.key name) = some d) (rest : List (List Char)) :
    walk (some (.obj ms)) ((Step.key name).text :: rest) =
      member name.toList ++ walk (some d) rest := by
  have hget : Json.get? (.obj ms) (String.ofList (Step.key name).text) = some d := by
    rw [Step.text, String.ofList_toList]
    exact h
  rw [walk, hget]
  · rfl
  · exact nofun

/-- A step to an item writes its index, and goes there unless the index is too large. -/
theorem walk_index {xs : List Json} {i : Nat} (rest : List (List Char)) :
    walk (some (.arr xs)) ((Step.index i).text :: rest) =
      item (toString i).toList ++ walk (if i < Nat.pow 2 64 then xs[i]? else none) rest := by
  rw [walk, Step.text, Json.Pointer.toIndex?_toString]
  by_cases hsmall : i < Nat.pow 2 64
  · rw [Option.filter_some, if_pos (decide_eq_true hsmall), if_pos hsmall, Option.bind_some]
  · rw [Option.filter_some, if_neg (by simpa using hsmall), if_neg hsmall, Option.bind_none]

/-- A path that leads into a value in order is written on one line. -/
theorem isLine_walk {j : Json} {path : List Step} (hj : j.SortedKeys) (h : (j.at? path).isSome) :
    IsLine (walk (some j) (path.map Step.text)) := by
  induction path generalizing j with
  | nil =>
    rw [List.map_nil, walk]
    exact isLine_nil
  | cons s rest ih =>
    obtain ⟨c, hc⟩ := Option.isSome_iff_exists.mp h
    rw [Json.at?_cons] at hc
    obtain ⟨d, hd, hrest⟩ := Option.bind_eq_some_iff.mp hc
    have hbelow : IsLine (walk (some d) (rest.map Step.text)) :=
      ih (hj.child hd) (Option.isSome_iff_exists.mpr ⟨c, hrest⟩)
    rw [List.map_cons]
    cases j with
    | obj ms =>
      cases s with
      | index i => exact nomatch hd
      | key name =>
        rw [walk_key hd, isLine_append]
        exact ⟨isLine_member _, hbelow⟩
    | arr xs =>
      cases s with
      | key name => exact nomatch hd
      | index i =>
        have hitem : xs[i]? = some d := hd
        -- an index too large to be read leaves the document, where all steps are keys
        rw [walk_index, hitem, isLine_append]
        refine ⟨isLine_cons.mpr ⟨by decide, ?_⟩, ?_⟩
        · exact isLine_append.mpr ⟨Text.isLine_toString i, by decide⟩
        · split
          · exact hbelow
          · exact isLine_walk_none _
    | _ => exact nomatch hd

/-- **Locations.** The location that a pointer leads to in a document is a line. -/
theorem isLine_ofPointer {document : Json} {path : List Step} (hdocument : document.SortedKeys)
    (h : (document.at? path).isSome) :
    IsLine (ofPointer (Json.Pointer.render path) document).toList := by
  rw [ofPointer, String.toList_ofList, Json.Pointer.segments_render]
  exact isLine_walk hdocument h

end DocCheck.Location
