import DocCheck.Schema.Application

/-!
# Usable schemas

A schema is usable if no keyword in it is broken and every reference means a schema, also in all the
schemas that its references mean.

* `Node.verify` — finds the first thing in a tree that is unusable;
* `Store.verify` — the same, through references.
-/

namespace DocCheck.Schema

/-- The schemas that have been gone through: their drafts, their bases and themselves. -/
abbrev Visited := List (Draft × String × Json)

/-- How a reference is gone through. -/
abbrev Visit := Reference → Visited → Except BuildError Visited

mutual

/-- Goes through a tree, up to the first thing that is unusable. A condition without branches is
never applied and is left out. -/
def Node.verify (visit : Visit) : Node → Visited → Except BuildError Visited
  | .always, seen | .never, seen | .check _ _, seen | .covers _, seen => .ok seen
  | .broken e, _ => .error e
  | .ref r, seen => visit r seen
  | .all parts, seen | .tuple _ parts, seen | .allOf parts, seen | .anyOf parts, seen
  | .oneOf parts, seen => verifyAll visit parts seen
  | .select entries, seen | .closed entries, seen | .dependent _ entries, seen =>
    verifyEntries visit entries seen
  | .others entries other, seen =>
    match verifyEntries visit entries seen with
    | .ok seen => other.verify visit seen
    | .error e => .error e
  | .names n, seen | .items _ _ n, seen | .contains n _ _, seen | .negation n _, seen
  | .unevaluatedMembers n, seen | .unevaluatedItems n, seen => n.verify visit seen
  | .choice _ .always .always, seen => .ok seen
  | .choice condition yes no, seen =>
    match condition.verify visit seen with
    | .error e => .error e
    | .ok seen =>
      match yes.verify visit seen with
      | .error e => .error e
      | .ok seen => no.verify visit seen
  termination_by structural n => n

/-- Goes through a list of trees. -/
def verifyAll (visit : Visit) : List Node → Visited → Except BuildError Visited
  | [], seen => .ok seen
  | n :: ns, seen =>
    match n.verify visit seen with
    | .ok seen => verifyAll visit ns seen
    | .error e => .error e
  termination_by structural ns => ns

def verifyEntries (visit : Visit) : List (Selector × Node) → Visited → Except BuildError Visited
  | [], seen => .ok seen
  | e :: es, seen =>
    match verifyEntry visit e seen with
    | .ok seen => verifyEntries visit es seen
    | .error e => .error e
  termination_by structural es => es

def verifyEntry (visit : Visit) : Selector × Node → Visited → Except BuildError Visited
  | (_, n), seen => n.verify visit seen
  termination_by structural e => e

end

namespace Store

/-- Goes through the schema that a reference means, unless that has been done; at most so many
references deep. -/
def visit (st : Store) : Nat → Visit
  | 0, _, seen => .ok seen
  | fuel + 1, r, seen =>
    match st.target r with
    | .error e => .error (.reference e)
    | .ok none => .ok seen
    | .ok (some t) =>
      let key := (t.scope.draft, t.scope.base, t.schema)
      if seen.contains key then .ok seen else t.compile.verify (st.visit fuel) (key :: seen)

/-- Goes through a tree and all the schemas that its references mean. Those that refer to more are
objects in the store, each below no more bases. -/
def verify (st : Store) (n : Node) : Except BuildError Unit :=
  (n.verify (st.visit ((st.objects + 1) * (st.objects + 1))) []).map fun _ => ()

end Store

end DocCheck.Schema
