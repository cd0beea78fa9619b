import DocCheck.Schema.Compile
import DocCheck.Schema.Rule

/-!
# Applying schemas

The tree of a schema is turned into a rule part by part; a reference is followed into the store when
a value gets there. A chain of references that never goes deeper into the value has no end; the
bound on their number keeps such a chain finite and is never reached by any other.

* `Node.rule` — the rule of a tree;
* `Store.follow` — what a reference finds in a value;
* `Store.faults` — the faults that a tree finds in a value.
-/

namespace DocCheck.Schema

abbrev Follow := Reference → Rule

mutual

def Node.rule (follow : Follow) : Node → Rule
  | .always => .always
  | .never => .never
  | .all parts => .inTurn (rules follow parts)
  | .check keyword c => .check keyword c
  | .ref r => .ref r.keyword (follow r)
  | .select entries => .select (entryRules follow entries)
  | .closed entries => .closed (entryRules follow entries)
  | .others entries other => .others (entryRules follow entries) (other.rule follow)
  | .names name => .names (name.rule follow)
  | .items keyword start item => .items keyword start (item.rule follow)
  | .tuple keyword items => .tuple keyword (rules follow items)
  | .covers limit => .covers limit
  | .contains item least most => .contains (item.rule follow) least most
  | .allOf parts => .allOf (rules follow parts)
  | .anyOf parts => .anyOf (rules follow parts)
  | .oneOf parts => .oneOf (rules follow parts)
  | .negation part source => .negation (part.rule follow) source
  | .choice condition yes no =>
    .choice (condition.rule follow) (yes.rule follow) (no.rule follow)
  | .dependent keyword entries => .dependent keyword (entryRules follow entries)
  | .unevaluatedMembers other => .unevaluatedMembers (other.rule follow)
  | .unevaluatedItems other => .unevaluatedItems (other.rule follow)
  | .broken _ => .always
  termination_by structural n => n

/-- The rules of a list of trees. -/
def rules (follow : Follow) : List Node → List Rule
  | [] => []
  | n :: ns => n.rule follow :: rules follow ns
  termination_by structural ns => ns

def entryRules (follow : Follow) : List (Selector × Node) → List (Selector × Rule)
  | [] => []
  | e :: es => entryRule follow e :: entryRules follow es
  termination_by structural es => es

/-- The rule of a selected subschema. -/
def entryRule (follow : Follow) : Selector × Node → Selector × Rule
  | (s, n) => (s, n.rule follow)
  termination_by structural e => e

end

namespace Store

/-- Follows references, at most so many one behind the other. -/
def follow (st : Store) : Nat → Follow
  | 0, _ => .always
  | fuel + 1, r =>
    .deferred fun _ =>
      match st.target r with
      | .ok (some t) => t.compile.rule (st.follow fuel)
      | .ok none => .always
      -- A schema with such a reference is not built, unless the reference is met in the scope of
      -- another path only.
      | .error _ => .lost

/-- The number of objects in all schemas of a store. Every reference stands in one of them. -/
def objects (st : Store) : Nat := st.resources.foldr (fun p n => p.2.schema.objects + n) 0

/-- A bound for the number of references one behind the other on a value. Between two steps into the
value no reference can be met twice with the same base, or there would be no end. -/
def depthBound (st : Store) (v : Json) : Nat :=
  (v.size + 1) * ((st.objects + 1) * (st.objects + 1))

/-- The faults that a tree finds in a value. -/
def faults (st : Store) (n : Node) (v : Json) : List Fault :=
  (n.rule (st.follow (st.depthBound v))).apply v

end Store

end DocCheck.Schema
