/-!
# Paths

A path is a text whose parts are divided by slashes. Joining is purely textual: nothing is
normalised, and an absolute second part replaces the first.

* `Path.join` — one path below another;
* `Path.components` — the parts that count when two paths are compared.
-/

namespace DocCheck.Path

/-- Whether a path starts at the root. -/
def isAbsolute (p : String) : Bool := p.toList.head? == some '/'

/-- The path `p` below `base`. One slash divides them, unless the base is empty or already ends
with a slash. -/
def join (base p : String) : String :=
  if isAbsolute p then p
  -- The empty base has no last character, so it passes the test as well.
  else if base.toList.getLast?.all (· == '/') then base ++ p
  else base ++ "/" ++ p

/-- The parts of a text between a dividing character, an empty part included. -/
def segments (divider : Char) : List Char → List (List Char)
  | [] => [[]]
  | c :: cs =>
    if c = divider then [] :: segments divider cs
    else
      match segments divider cs with
      | s :: rest => (c :: s) :: rest
      | [] => [[c]]

/-- The parts of a path that count: repeated slashes and single dots do not, except for a dot in
front. A path that starts at the root has the root as its first part. -/
def components (p : String) : List String :=
  let parts := segments '/' p.toList
  let front : List (List Char) :=
    if isAbsolute p then [['/']]
    else if parts.head? == some ['.'] then [['.']]
    else []
  (front ++ parts.filter fun s => s != [] && s != ['.']).map String.ofList

/-- Whether two paths have the same components. -/
def same (p q : String) : Bool := components p == components q

end DocCheck.Path
