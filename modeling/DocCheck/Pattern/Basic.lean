import DocCheck.Pattern.Expr.Reader
import DocCheck.Pattern.Machine.Compile
import DocCheck.Pattern.Plain

/-!
# Patterns

A pattern says which pieces of a text match it. It is read once and then tried on many texts.

* `Pattern`, `Pattern.read` — the patterns, and the pattern of a text;
* `Pattern.isWellFormed` — the texts that look like patterns;
* `Pattern.matchesIn` — whether some piece of a text matches.
-/

namespace DocCheck

/-- A pattern. -/
inductive Pattern where
  /-- A pattern that an automaton recognises. -/
  | regular (automaton : Pattern.Automaton)
  /-- A pattern that has to be tried in one way after another. -/
  | hard (machine : Pattern.Machine)
  deriving DecidableEq

namespace Pattern

/-- Whether a text is a plain pattern, or one that looks or refers back somewhere. -/
def isWellFormed (text : String) : Bool := (Plain.prepare? text).isSome

/-- The pattern of an expression, if it is not too large. References have to be to groups that have
begun before. -/
def ofExpr? (e : Expr) : Option Pattern :=
  if !e.refersBack 1 then none
  else if e.isHard e.references 1 then (Machine.ofExpr? e).map hard
  else if Expr.greatestDepth < e.depth .none then none
  else
    (e.regular? 1).bind fun r =>
      if r.isTooLarge then none else some (.regular (.ofRegular r))

/-- The pattern of a text, if it is one. -/
def read (text : String) : Option Pattern :=
  ((Plain.prepare? text).bind Expr.read).bind ofExpr?

/-- Whether some piece of a text matches, unless too much would have to be tried. -/
def matchesIn (p : Pattern) (text : String) : Except Machine.Limit Bool :=
  let cs := text.toList.toArray
  match p with
  | regular a => .ok (a.matchesIn cs)
  | hard m => m.matchesIn cs

end Pattern

end DocCheck
