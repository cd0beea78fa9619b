import DocCheck.Proofs.Location.Decode
import DocCheck.Violation

/-!
# The lines of members that are not listed

The line for a member that a schema does not list names the member by its full location, though it
is put together from the location of the object and the name. It is the location that the pointer to
the member has, but for the dot in front where the member is one of the root and its name is an
identifier. So these lines tell apart the members of a document.

Inside one document the lines do so at every depth. An index that does not fit into a word leaves
the document for the rest of the location, whose steps are then all written as keys; two paths into
the same value still do not have the same texts.

* `walk_concat` — the location of a member is that of the object with the member behind it;
* `walk_injective` — the paths into one value have locations of their own;
* `Violation.unlisted`, `Violation.dot_line_unlisted` — the line for a member;
* `Violation.line_unlisted` — what the line says and what it tells.
-/

namespace DocCheck

namespace Json

/-- Of two paths into one value that have the same texts, step by step, there is only one: whether a
text is a key or an index is decided by what it leads into. -/
theorem eq_of_map_text {j : Json} {path other : List Step} (hpath : (j.at? path).isSome)
    (hother : (j.at? other).isSome) (h : path.map Step.text = other.map Step.text) :
    path = other := by
  induction path generalizing j other with
  | nil => exact (List.map_eq_nil_iff.mp h.symm).symm
  | cons s path ih =>
    cases other with
    | nil => cases h
    | cons t other =>
      obtain ⟨htext, hrest⟩ := List.cons.inj h
      obtain ⟨c, hc⟩ : ∃ c, j.child? s = some c :=
        Option.isSome_iff_exists.mp (Option.isSome_of_isSome_bind hpath)
      obtain ⟨d, hd⟩ : ∃ d, j.child? t = some d :=
        Option.isSome_iff_exists.mp (Option.isSome_of_isSome_bind hother)
      rw [at?_of_child hc] at hpath
      rw [at?_of_child hd] at hother
      -- A value has keys or indices below it, never both.
      have hst : s = t := by
        cases j with
        | obj ms =>
          cases s with
          | index i => cases hc
          | key a =>
            cases t with
            | index i => cases hd
            | key b => exact congrArg Step.key (String.toList_inj.mp htext)
        | arr xs =>
          cases s with
          | key a => cases hc
          | index i =>
            cases t with
            | key b => cases hd
            | index k => exact congrArg Step.index (Text.eq_of_toString htext)
        | _ => cases hc
      subst hst
      rw [hc, Option.some.injEq] at hd
      subst hd
      rw [ih hpath hother hrest]

end Json

namespace Location

open Json (Step)

/-! ### One step more -/

/-- Outside the document the last step is a key as all others are. -/
theorem walk_none_concat (steps : List (List Char)) (key : List Char) :
    walk none (steps ++ [key]) = walk none steps ++ member key := by
  induction steps with
  | nil => rw [List.nil_append, walk, walk, List.nil_append, walk, List.append_nil]
  | cons s rest ih => rw [List.cons_append, walk, walk, ih, List.append_assoc]

/-- **One step more.** Behind a path that leads to an object a step is written as the key of a
member. -/
theorem walk_concat {j : Json} {ms : List (String × Json)} {path : List Step}
    (h : j.at? path = some (.obj ms)) (key : List Char) :
    walk (some j) (path.map Step.text ++ [key]) =
      walk (some j) (path.map Step.text) ++ member key := by
  induction path generalizing j with
  | nil =>
    obtain rfl : j = .obj ms := Option.some.inj h
    rw [List.map_nil, List.nil_append, walk, walk, walk, List.append_nil, List.nil_append]
    intro xs hxs
    cases hxs
  | cons s rest ih =>
    obtain ⟨d, hd, hrest⟩ := Option.bind_eq_some_iff.mp (Json.at?_cons j s rest ▸ h)
    rw [List.map_cons, List.cons_append]
    cases j with
    | obj ns =>
      cases s with
      | index i => cases hd
      | key name => rw [walk_key hd, walk_key hd, ih hrest, List.append_assoc]
    | arr xs =>
      cases s with
      | key name => cases hd
      | index i =>
        have hitem : xs[i]? = some d := hd
        rw [walk_index, walk_index, hitem, List.append_assoc]
        congr 1
        -- an index too large to be read leaves the document, where a key follows as well
        by_cases hsmall : i < Nat.pow 2 64
        · rw [if_pos hsmall, ih hrest]
        · rw [if_neg hsmall, walk_none_concat]
    | _ => cases hd

/-- The pointer of one step more. -/
theorem render_concat (path : List Step) (name : String) :
    Json.Pointer.render (path ++ [.key name]) =
      Json.Pointer.render path ++ "/" ++ String.ofList (Json.Pointer.escape name.toList) := by
  have hslash : "/" = String.ofList ['/'] := rfl
  unfold Json.Pointer.render Json.Pointer.chars
  rw [hslash, ← String.ofList_append, ← String.ofList_append, List.flatMap_append,
    List.append_assoc, List.flatMap_cons, List.flatMap_nil, List.append_nil]
  rfl

theorem ofPointer_concat {document : Json} {ms : List (String × Json)} {path : List Step}
    (h : document.at? path = some (.obj ms)) (name : String) :
    ofPointer (Json.Pointer.render (path ++ [.key name])) document =
      ofPointer (Json.Pointer.render path) document ++ String.ofList (member name.toList) := by
  unfold ofPointer
  rw [Json.Pointer.segments_render, Json.Pointer.segments_render, List.map_append, List.map_cons,
    List.map_nil, ← String.ofList_append]
  exact congrArg String.ofList (walk_concat h name.toList)

/-! ### Steps taken apart -/

/-- The text of a step starts with a dot or a bracket, wherever it is written. -/
theorem walk_cons_eq (j : Option Json) (s : List Char) (rest : List (List Char)) :
    ∃ c cs, walk j (s :: rest) = c :: cs ∧ (c = '.' ∨ c = '[') := by
  have hmember : ∀ cs, ∃ c tail, member s ++ cs = c :: tail ∧ (c = '.' ∨ c = '[') := by
    intro cs
    obtain ⟨c, tail, htext, hc⟩ := piece_eq_cons (.key (String.ofList s))
    rw [piece, String.toList_ofList] at htext
    exact ⟨c, tail ++ cs, by rw [htext, List.cons_append], hc⟩
  cases j with
  | none => exact hmember _
  | some d =>
    cases d with
    | arr xs => exact ⟨'[', _, rfl, .inr rfl⟩
    | _ =>
      rw [walk]
      · exact hmember _
      · intro xs hxs
        cases hxs

/-- Where steps are written, something is. -/
theorem walk_cons_ne_nil (j : Option Json) (s : List Char) (rest : List (List Char)) :
    walk j (s :: rest) ≠ [] := by
  obtain ⟨c, cs, htext, _⟩ := walk_cons_eq j s rest
  rw [htext]
  exact List.cons_ne_nil c cs

/-- What follows a step is a step again, or nothing. -/
theorem stops_walk (j : Option Json) (steps : List (List Char)) : Stops (walk j steps) := by
  cases steps with
  | nil =>
    rw [walk]
    intro d hd
    cases hd
  | cons s rest =>
    obtain ⟨c, cs, htext, hc⟩ := walk_cons_eq j s rest
    intro d hd
    rw [htext] at hd
    obtain rfl : c = d := Option.some.inj hd
    rcases hc with rfl | rfl <;> decide

/-- A key ends where the next step starts. -/
theorem member_append_inj {a b rest rest' : List Char} (hrest : Stops rest) (hrest' : Stops rest')
    (h : member a ++ rest = member b ++ rest') : a = b ∧ rest = rest' := by
  have hpiece : ∀ key, member key = piece (.key (String.ofList key)) := by
    intro key
    rw [piece, String.toList_ofList]
  -- Reading one step back gives the key and what stands behind it, and gives only one answer.
  have hread := readStep_piece (s := .key (String.ofList a)) trivial hrest
  have hread' := readStep_piece (s := .key (String.ofList b)) trivial hrest'
  rw [← hpiece] at hread hread'
  rw [h, hread', Option.some.injEq, Prod.mk.injEq, Step.key.injEq] at hread
  exact ⟨(String.ofList_injective hread.1).symm, hread.2.symm⟩

/-- An index ends at its bracket. -/
theorem item_append_inj {i k : Nat} {rest rest' : List Char}
    (h : item (toString i).toList ++ rest = item (toString k).toList ++ rest') :
    i = k ∧ rest = rest' := by
  have htext : ∀ (n : Nat) (cs : List Char),
      item (toString n).toList ++ cs = '[' :: ((toString n).toList ++ ']' :: cs) := by
    intro n cs
    simp [item]
  have hdigits : ∀ (n : Nat) (cs : List Char),
      ((toString n).toList ++ ']' :: cs).takeWhile Char.isDigit = (toString n).toList := by
    intro n cs
    rw [List.takeWhile_append_of_pos fun c hc => Text.isDigit_of_mem_toString hc,
      List.takeWhile_cons_of_neg (by decide), List.append_nil]
  rw [htext, htext, List.cons.injEq] at h
  have hsame := congrArg (List.takeWhile Char.isDigit) h.2
  rw [hdigits, hdigits] at hsame
  refine ⟨Text.eq_of_toString hsame, ?_⟩
  rw [hsame, List.append_cancel_left_eq, List.cons.injEq] at h
  exact h.2.2

/-- Outside the document a location tells the texts of its steps. -/
theorem walk_none_injective {steps other : List (List Char)}
    (h : walk none steps = walk none other) : steps = other := by
  induction steps generalizing other with
  | nil =>
    cases other with
    | nil => rfl
    | cons t other =>
      rw [walk] at h
      exact absurd h.symm (walk_cons_ne_nil none t other)
  | cons s steps ih =>
    cases other with
    | nil => exact absurd h (walk_cons_ne_nil none s steps)
    | cons t other =>
      obtain ⟨rfl, hrest⟩ := member_append_inj (stops_walk none steps) (stops_walk none other) h
      rw [ih hrest]

/-- **Places.** The paths into one value have locations of their own. -/
theorem walk_injective {j : Json} {path other : List Step} (hpath : (j.at? path).isSome)
    (hother : (j.at? other).isSome)
    (h : walk (some j) (path.map Step.text) = walk (some j) (other.map Step.text)) :
    path = other := by
  induction path generalizing j other with
  | nil =>
    cases other with
    | nil => rfl
    | cons t other =>
      rw [List.map_nil, walk] at h
      exact absurd h.symm (walk_cons_ne_nil _ t.text _)
  | cons s path ih =>
    cases other with
    | nil =>
      rw [List.map_nil, walk] at h
      exact absurd h (walk_cons_ne_nil _ s.text _)
    | cons t other =>
      obtain ⟨c, hc⟩ : ∃ c, j.child? s = some c :=
        Option.isSome_iff_exists.mp (Option.isSome_of_isSome_bind hpath)
      obtain ⟨d, hd⟩ : ∃ d, j.child? t = some d :=
        Option.isSome_iff_exists.mp (Option.isSome_of_isSome_bind hother)
      rw [Json.at?_of_child hc] at hpath
      rw [Json.at?_of_child hd] at hother
      cases j with
      | obj ms =>
        cases s with
        | index i => cases hc
        | key a =>
          cases t with
          | index i => cases hd
          | key b =>
            rw [List.map_cons, List.map_cons, walk_key hc, walk_key hd] at h
            obtain ⟨hname, hrest⟩ := member_append_inj (stops_walk _ _) (stops_walk _ _) h
            obtain rfl : a = b := String.toList_inj.mp hname
            obtain rfl : c = d := Option.some.inj (hc.symm.trans hd)
            rw [ih hpath hother hrest]
      | arr xs =>
        cases s with
        | key a => cases hc
        | index i =>
          cases t with
          | key b => cases hd
          | index k =>
            have hitem : xs[i]? = some c := hc
            rw [List.map_cons, List.map_cons, walk_index, walk_index] at h
            obtain ⟨rfl, hrest⟩ := item_append_inj h
            obtain rfl : c = d := Option.some.inj (hc.symm.trans hd)
            rw [hitem] at hrest
            by_cases hsmall : i < Nat.pow 2 64
            · rw [if_pos hsmall] at hrest
              rw [ih hpath hother hrest]
            · -- from here on both locations are outside the document
              rw [if_neg hsmall] at hrest
              have htexts := walk_none_injective hrest
              rw [Json.eq_of_map_text hpath hother htexts]
      | _ => cases hc

/-- Two members of objects in one document that have the same location are the same member. -/
theorem eq_of_ofPointer_concat {document : Json} {ms ns : List (String × Json)}
    {path other : List Step} {name name' : String} (hpath : document.at? path = some (.obj ms))
    (hname : (Json.lookup name ms).isSome) (hother : document.at? other = some (.obj ns))
    (hname' : (Json.lookup name' ns).isSome)
    (h : ofPointer (Json.Pointer.render (path ++ [.key name])) document =
      ofPointer (Json.Pointer.render (other ++ [.key name'])) document) :
    path = other ∧ name = name' := by
  have hplace : (document.at? (path ++ [.key name])).isSome := by
    rw [Json.at?_concat, hpath]
    exact hname
  have hplace' : (document.at? (other ++ [.key name'])).isSome := by
    rw [Json.at?_concat, hother]
    exact hname'
  unfold ofPointer at h
  rw [Json.Pointer.segments_render, Json.Pointer.segments_render] at h
  have hsame := walk_injective hplace hplace' (String.ofList_injective h)
  obtain ⟨hpaths, hsteps⟩ := List.append_inj' hsame rfl
  exact ⟨hpaths, Step.key.inj (List.cons.inj hsteps).1⟩

end Location

namespace Violation

open Json (Step)
open Location (ofPointer isIdentifier member)

/-! ### The line -/

/-- The violation for a member that is not listed, of the object that a path leads to. -/
def unlisted (document : Json) (path : List Step) (name message : String) : Violation :=
  ⟨ofPointer (Json.Pointer.render path) document, .additionalProperty name, message⟩

/-- The dot in front of an identifier is left out behind an empty location. -/
theorem append_member (location name : List Char) :
    location ++ member name =
      (if location = [] ∧ isIdentifier name then ['.'] else []) ++
        memberLocation location name := by
  unfold member memberLocation
  by_cases hname : isIdentifier name = true
  · rw [if_pos hname, if_pos hname]
    cases location with
    | nil => simp [hname]
    | cons c cs => simp
  · rw [if_neg hname, if_neg hname, if_neg fun h => hname h.2, List.nil_append]

/-- Only the root has the empty location. -/
theorem ofPointer_eq_nil_iff {document : Json} {path : List Step} :
    (ofPointer (Json.Pointer.render path) document).toList = [] ↔ path = [] := by
  unfold ofPointer
  rw [String.toList_ofList, Json.Pointer.segments_render]
  constructor
  · intro h
    cases path with
    | nil => rfl
    | cons s rest => exact absurd h (Location.walk_cons_ne_nil _ _ _)
  · rintro rfl
    rw [List.map_nil, Location.walk]

/-- The location of a member is what its line says, behind a dot if the member is one of the root
and its name is an identifier. -/
theorem toList_ofPointer_concat {document : Json} {ms : List (String × Json)} {path : List Step}
    (h : document.at? path = some (.obj ms)) (name : String) :
    (ofPointer (Json.Pointer.render (path ++ [.key name])) document).toList =
      (if path = [] ∧ isIdentifier name.toList then ['.'] else []) ++
        memberLocation (ofPointer (Json.Pointer.render path) document).toList name.toList := by
  have hroot : (ofPointer (Json.Pointer.render path) document).toList = [] ∧
      isIdentifier name.toList ↔ path = [] ∧ isIdentifier name.toList :=
    and_congr_left fun _ => ofPointer_eq_nil_iff
  rw [Location.ofPointer_concat h, String.toList_append, String.toList_ofList, append_member]
  simp only [hroot]

theorem toList_line_unlisted (document : Json) (path : List Step) (name message : String) :
    (unlisted document path name message).line.toList =
      memberLocation (ofPointer (Json.Pointer.render path) document).toList name.toList ++
        " is not a thing".toList := by
  have hline : (unlisted document path name message).line =
      String.ofList (memberLocation (ofPointer (Json.Pointer.render path) document).toList
        name.toList) ++ " is not a thing" := rfl
  rw [hline, String.toList_append, String.toList_ofList]

/-- **The line** for a member that is not listed is the location of the member and what is said of
it, behind a dot if the member is one of the root and its name is an identifier. -/
theorem dot_line_unlisted {document : Json} {ms : List (String × Json)} {path : List Step}
    (h : document.at? path = some (.obj ms)) (name message : String) :
    (if path = [] ∧ isIdentifier name.toList then "." else "") ++
        (unlisted document path name message).line =
      ofPointer (Json.Pointer.render (path ++ [.key name])) document ++ " is not a thing" := by
  rw [← String.toList_inj, String.toList_append, String.toList_append, toList_line_unlisted,
    toList_ofPointer_concat h, List.append_assoc]
  split <;> rfl

/-- An identifier goes on where it starts. -/
theorem not_stops_of_isIdentifier {name : List Char} (h : isIdentifier name) :
    ¬Location.Stops name := by
  intro hstops
  cases name with
  | nil => cases h
  | cons c cs =>
    have hpart := Location.isIdentifierPart_of_isIdentifier h c List.mem_cons_self
    rw [hstops c rfl] at hpart
    cases hpart

/-- The lines for two members of objects in one document are the same only if their locations are:
whether a dot was left out is seen from what the line starts with. -/
theorem ofPointer_concat_eq_of_line_eq {document : Json} {ms ns : List (String × Json)}
    {path other : List Step} {name name' message message' : String}
    (hpath : document.at? path = some (.obj ms)) (hother : document.at? other = some (.obj ns))
    (h : (unlisted document path name message).line =
      (unlisted document other name' message').line) :
    ofPointer (Json.Pointer.render (path ++ [.key name])) document =
      ofPointer (Json.Pointer.render (other ++ [.key name'])) document := by
  have hsaid : memberLocation (ofPointer (Json.Pointer.render path) document).toList name.toList =
      memberLocation (ofPointer (Json.Pointer.render other) document).toList name'.toList := by
    have hlines := congrArg String.toList h
    rw [toList_line_unlisted, toList_line_unlisted] at hlines
    exact List.append_cancel_right hlines
  -- A location starts with a dot or a bracket; without its dot it starts with an identifier.
  have hstart : ∀ {p q : List Step} {a b : String} {members : List (String × Json)},
      document.at? q = some (.obj members) → p = [] ∧ isIdentifier a.toList →
      ¬(q = [] ∧ isIdentifier b.toList) →
      memberLocation (ofPointer (Json.Pointer.render p) document).toList a.toList ≠
        memberLocation (ofPointer (Json.Pointer.render q) document).toList b.toList := by
    rintro p q a b members hq ⟨rfl, ha⟩ hno hsame
    have hname : memberLocation (ofPointer (Json.Pointer.render []) document).toList a.toList =
        a.toList := by
      rw [ofPointer_eq_nil_iff.mpr rfl, memberLocation, if_pos ha]
      rfl
    have hfull := toList_ofPointer_concat hq b
    rw [if_neg hno, List.nil_append, ← hsame, hname] at hfull
    refine not_stops_of_isIdentifier ha ?_
    rw [← hfull, ofPointer, String.toList_ofList]
    exact Location.stops_walk _ _
  rw [← String.toList_inj, toList_ofPointer_concat hpath, toList_ofPointer_concat hother, hsaid]
  by_cases hroot : path = [] ∧ isIdentifier name.toList
  · by_cases hroot' : other = [] ∧ isIdentifier name'.toList
    · rw [if_pos hroot, if_pos hroot']
    · exact absurd hsaid (hstart hother hroot hroot')
  · by_cases hroot' : other = [] ∧ isIdentifier name'.toList
    · exact absurd hsaid.symm (hstart hpath hroot' hroot)
    · rw [if_neg hroot, if_neg hroot']

/-- **Members that are not listed.** For every object in a document and every member of it, the line
for the member is the location that the pointer to the member has, followed by what is said of it;
the dot in front of the location is left out exactly if the object is the root and the name an
identifier. So the lines for two members in one document are the same only if they are for the same
member of the same object. -/
theorem line_unlisted {document : Json} {path : List Step} {ms : List (String × Json)}
    {name : String} (hnode : document.at? path = some (.obj ms))
    (hname : (Json.lookup name ms).isSome) (message : String) :
    (if path = [] ∧ isIdentifier name.toList then "." else "") ++
        (unlisted document path name message).line =
      ofPointer (Json.Pointer.render path ++ "/" ++
        String.ofList (Json.Pointer.escape name.toList)) document ++ " is not a thing" ∧
    ∀ other ns name' message', document.at? other = some (.obj ns) →
      (Json.lookup name' ns).isSome →
      (unlisted document other name' message').line = (unlisted document path name message).line →
      other = path ∧ name' = name := by
  constructor
  · rw [dot_line_unlisted hnode, Location.render_concat]
  · intro other ns name' message' hother hname' hline
    have hsame := ofPointer_concat_eq_of_line_eq hother hnode hline
    exact Location.eq_of_ofPointer_concat hother hname' hnode hname hsame

/-- Ports with a name that needs quotes, and one with digits for a name beside a list. -/
def portsDocument : Json :=
  .obj [("colour", .null), ("ports", .arr [.obj [("0", .null), ("a/~\"", .null)]])]

/-- The same name is not written alike everywhere, and no two members are. -/
theorem line_unlisted_portsDocument :
    portsDocument.at? [.key "ports", .index 0] =
        some (.obj [("0", .null), ("a/~\"", .null)]) ∧
      (unlisted portsDocument [.key "ports", .index 0] "a/~\"" "").line =
        ".ports[0][\"a/~\\\"\"] is not a thing" ∧
      ofPointer "/ports/0/a~1~0\"" portsDocument ++ " is not a thing" =
        ".ports[0][\"a/~\\\"\"] is not a thing" ∧
      (unlisted portsDocument [] "colour" "").line ≠
        (unlisted portsDocument [.key "ports", .index 0] "a/~\"" "").line := by
  have hnode : portsDocument.at? [.key "ports", .index 0] =
      some (.obj [("0", .null), ("a/~\"", .null)]) := by decide
  have hname : (Json.lookup "a/~\"" [("0", .null), ("a/~\"", .null)]).isSome := by decide
  obtain ⟨hline, htells⟩ := line_unlisted hnode hname ""
  have hpointer : Json.Pointer.render [.key "ports", .index 0] ++ "/" ++
      String.ofList (Json.Pointer.escape "a/~\"".toList) = "/ports/0/a~1~0\"" := by decide
  rw [if_neg (by decide), hpointer, String.empty_append] at hline
  have hwritten : (unlisted portsDocument [.key "ports", .index 0] "a/~\"" "").line =
      ".ports[0][\"a/~\\\"\"] is not a thing" := by decide +kernel
  refine ⟨hnode, hwritten, hline.symm.trans hwritten, fun hsame => ?_⟩
  have hroot : portsDocument.at? [] = some (.obj portsDocument.members) := rfl
  cases (htells [] _ "colour" "" hroot (by decide) hsame).1

end Violation

end DocCheck
