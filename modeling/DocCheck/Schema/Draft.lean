import DocCheck.Json.Basic

/-!
# Drafts

A schema is written for one draft of the schema language, which it names by the URI of a
meta-schema. A subschema that names none is written for the draft of the schema around it.

* `Draft.detect` — the draft that a schema is written for;
* `Draft.id?`, `Draft.anchors` — the names that a schema gives itself.
-/

namespace DocCheck.Schema

/-- The drafts of the schema language that are understood. -/
inductive Draft where
  | draft4
  | draft6
  | draft7
  | draft2019
  | draft2020
  deriving DecidableEq, Inhabited

namespace Draft

/-- Every draft, from old to new. -/
def all : List Draft := [draft4, draft6, draft7, draft2019, draft2020]

/-- The draft of schemas that name none. -/
def latest : Draft := draft2020

/-- The place of a draft in `all`. -/
def index : Draft → Nat
  | draft4 => 0
  | draft6 => 1
  | draft7 => 2
  | draft2019 => 3
  | draft2020 => 4

/-- Whether a draft is another one or newer. -/
def atLeast (d other : Draft) : Bool := other.index ≤ d.index

def uri : Draft → String
  | draft4 => "http://json-schema.org/draft-04/schema"
  | draft6 => "http://json-schema.org/draft-06/schema"
  | draft7 => "http://json-schema.org/draft-07/schema"
  | draft2019 => "https://json-schema.org/draft/2019-09/schema"
  | draft2020 => "https://json-schema.org/draft/2020-12/schema"

/-- A URI without the number signs at its end. -/
def trimHashes (uri : String) : String :=
  String.ofList (uri.toList.reverse.dropWhile (· == '#')).reverse

/-- The draft whose meta-schema has this URI. An empty fragment at its end says nothing. -/
def ofUri? (uri : String) : Option Draft := all.find? fun d => d.uri == trimHashes uri

/-- The draft of a schema that stands inside a schema of draft `d`; the URI, if no draft has it. -/
def detect (d : Draft) (schema : Json) : Except String Draft :=
  match (schema.get? "$schema").bind Json.text? with
  | none => .ok d
  | some uri =>
    match ofUri? uri with
    | some d => .ok d
    | none => .error (trimHashes uri)

/-- Each meta-schema names its own draft. -/
@[simp] theorem ofUri?_uri (d : Draft) : ofUri? d.uri = some d := by
  cases d <;> decide

/-! ### Names of schemas -/

/-- Up to draft 7 a reference hides everything beside it. -/
def referenceHidesSiblings (d : Draft) : Bool := !d.atLeast draft2019

/-- The keyword with the URI of a schema. -/
def idKeyword (d : Draft) : String := if d = draft4 then "id" else "$id"

/-- The URI that a schema gives itself, relative to the schema around it. Up to draft 7 a reference
hides it, and a fragment is no URI but an anchor. -/
def id? (d : Draft) (schema : Json) : Option String :=
  match (schema.get? d.idKeyword).bind Json.text? with
  | none => none
  | some id =>
    if d.referenceHidesSiblings && ((schema.get? "$ref").isSome || id.toList.head? == some '#')
    then none
    else some (trimHashes id)

/-- A name for a place inside a schema. A dynamic one may be taken over by the same name in a schema
from which one came. -/
structure Anchor where
  name : String
  isDynamic : Bool
  deriving DecidableEq

/-- The anchor that a keyword sets. -/
def keywordAnchor (keyword : String) (isDynamic : Bool) (schema : Json) : List Anchor :=
  match (schema.get? keyword).bind Json.text? with
  | some name => [⟨name, isDynamic⟩]
  | none => []

/-- The anchor in front of an identifier that is a fragment. -/
def fragmentAnchor (id : String) : List Anchor :=
  match id.toList with
  | '#' :: name => [⟨String.ofList name, false⟩]
  | _ => []

/-- The anchors that a schema sets for itself. -/
def anchors (d : Draft) (schema : Json) : List Anchor :=
  match d with
  | draft2020 =>
    keywordAnchor "$anchor" false schema ++ keywordAnchor "$dynamicAnchor" true schema
  | draft2019 => keywordAnchor "$anchor" false schema
  | _ => ((schema.get? d.idKeyword).bind Json.text?).elim [] fragmentAnchor

end Draft

end DocCheck.Schema
