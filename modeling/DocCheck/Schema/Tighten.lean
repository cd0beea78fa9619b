import DocCheck.Json.Basic
import DocCheck.Schema.Carrier

/-!
# Tightened schemas

A tightened schema refuses members it does not know: every object schema that lists `properties`,
at any depth, also gets `additionalProperties: false`, unless it says something about
`additionalProperties` already. Everything else stays as it is, and data are not looked into.

* `Schema.isOpen` — the object schemas that tightening closes;
* `Schema.tighten` — the tightened schema.
-/

namespace DocCheck.Schema

/-- Whether the `type` of a schema is `object` or a list with `object` in it. -/
def hasObjectType (members : List (String × Json)) : Bool :=
  match Json.lookup "type" members with
  | some (.str t) => t == "object"
  | some (.arr ts) => ts.any fun t => t.text? == some "object"
  | _ => false

/-- Whether a schema is an object schema that lists properties and leaves others open. -/
def isOpen (members : List (String × Json)) : Bool :=
  hasObjectType members
    && (Json.lookup "properties" members).any Json.isObject
    && (Json.lookup "additionalProperties" members).isNone

/-- Adds `additionalProperties: false` to what `written` has become, if `written` is open. -/
def close (written tightened : List (String × Json)) : List (String × Json) :=
  if isOpen written then Json.insert "additionalProperties" (.bool false) tightened else tightened

mutual

def tighten : Json → Json
  | .obj ms => .obj (close ms (tightenMembers ms))
  | j => j
  termination_by structural j => j

/-- The members of a schema, each tightened as its keyword says. -/
def tightenMembers : List (String × Json) → List (String × Json)
  | [] => []
  | m :: ms => tightenMember m :: tightenMembers ms
  termination_by structural ms => ms

/-- A keyword and its value, tightened. -/
def tightenMember : String × Json → String × Json
  | (k, v) =>
    (k, match Carrier.ofKeyword k with
      | .single => tighten v
      -- Only `items` may be either.
      | .singleOrList => if v.isArray then tightenList v else tighten v
      | .list => tightenList v
      | .named => tightenMap v
      | .data => v)
  termination_by structural m => m

/-- The schemas in an array, each tightened; any other value stays. -/
def tightenList : Json → Json
  | .arr xs => .arr (tightenItems xs)
  | j => j
  termination_by structural j => j

/-- The schemas that an object maps names to, each tightened; any other value stays. -/
def tightenMap : Json → Json
  | .obj ms => .obj (tightenNamed ms)
  | j => j
  termination_by structural j => j

/-- A list of schemas, each tightened. -/
def tightenItems : List Json → List Json
  | [] => []
  | x :: xs => tighten x :: tightenItems xs
  termination_by structural xs => xs

/-- A map from names to schemas, each tightened. -/
def tightenNamed : List (String × Json) → List (String × Json)
  | [] => []
  | m :: ms => tightenEntry m :: tightenNamed ms
  termination_by structural ms => ms

/-- A name and its schema, tightened. -/
def tightenEntry : String × Json → String × Json
  | (name, v) => (name, tighten v)
  termination_by structural m => m

end

end DocCheck.Schema
