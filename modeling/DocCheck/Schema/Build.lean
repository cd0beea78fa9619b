import DocCheck.Schema.Collect
import DocCheck.Schema.Soundness

/-!
# Building schemas

Before a schema is applied everything it refers to has to be read, it has to match the meta-schema
of its draft, and every part of it has to be usable. The first of these that fails is reported.

* `Program` — a schema that can be applied;
* `Program.build` — the program of a schema;
* `Program.faults` — what it finds in a value.
-/

namespace DocCheck.Schema

def Draft.metaSchema : Draft → Json
  | draft4 => Meta.draft4
  | draft6 => Meta.draft6
  | draft7 => Meta.draft7
  | draft2019 => Meta.draft2019
  | draft2020 => Meta.draft2020

/-- The tree of the meta-schema of a draft. -/
def Draft.metaNode (d : Draft) : Node := compile (.start d d.uri) d.metaSchema

/-- What the meta-schema of a draft finds in a schema. -/
def Draft.metaFaults (d : Draft) (schema : Json) : List Fault :=
  Store.standard.faults d.metaNode schema

/-- A schema that can be applied. -/
structure Program where
  /-- The schemas that its references mean. -/
  store : Store
  /-- The schema and the scope in which it is read. -/
  root : Target

namespace Program

/-- What a program finds in a value. -/
def faults (p : Program) (v : Json) : List Fault := p.store.faults p.root.compile v

/-- The scope at the root of a schema, whose meta-schema may leave groups of keywords out. -/
def rootScope (store : Store) (base : String) (r : Resource) : Except ReferenceError Scope :=
  { Scope.start r.draft base with vocabularies := store.vocabularies r.draft r.schema }.enter r

/-- The program of a schema once everything it refers to is in a store. -/
def ofStore (store : Store) (base : String) (r : Resource) : Except BuildError Program :=
  match r.draft.metaFaults r.schema with
  | f :: _ => .error (.malformed f.value f.cause)
  | [] =>
    match rootScope store base r with
    | .error e => .error (.reference e)
    | .ok scope =>
      let root : Target := ⟨scope, r.schema⟩
      match store.verify root.compile with
      | .ok () => .ok ⟨store, root⟩
      | .error e => .error e

/-- The program of a schema of a draft. -/
def ofResource (retrieve : Retrieve) (r : Resource) : List String × Except BuildError Program :=
  match Collection.baseInside Uri.rootBase r with
  | .error e => ([], .error (.reference e))
  | .ok base =>
    match collect retrieve base r with
    | (read, .error e) => (read, .error (.reference e))
    | (read, .ok store) => (read, ofStore store base r)

/-- The draft that a schema is written for. A schema may name a meta-schema of its own, which has to
be one of a draft that is understood. Comes with the URIs whose schemas were read. -/
def draftOf (retrieve : Retrieve) (schema : Json) : List String × Except ReferenceError Draft :=
  match Draft.latest.detect schema with
  | .ok d => ([], .ok d)
  | .error uri =>
    match Uri.resolve Uri.rootBase uri with
    | .error _ => ([], .error (.unknownDraft uri))
    | .ok target =>
      match retrieve target with
      | .error _ => ([], .error (.unknownDraft uri))
      -- The draft of the own meta-schema decides; a second step of this kind is not made.
      | .ok own => ([target], (Draft.latest.detect own).mapError .unknownDraft)

/-- The program of a schema, with the URIs whose schemas were read, in the order of reading. -/
def build (retrieve : Retrieve) (schema : Json) : List String × Except BuildError Program :=
  match draftOf retrieve schema with
  | (read, .error e) => (read, .error (.reference e))
  | (read, .ok d) => (ofResource retrieve ⟨d, schema⟩).map (read ++ ·) id

end Program

end DocCheck.Schema
