import DocCheck.Schema.Store

/-!
# Collecting schemas

Before a schema is used, every schema that it refers to is read and put into a store, together with
all that these refer to. Subschemas that give themselves a URI are put in as well. Whatever is not
in the store when this is done is never looked for again.

* `Retrieve` — how the schema of a URI is read;
* `Collection` — the store so far and what is still to be looked at;
* `collect` — the store for a schema.
-/

namespace DocCheck.Schema

/-- How the schema of a URI is read; the reason, if it cannot be. -/
abbrev Retrieve := String → Except String Json

/-- The starts of URIs that name the meta-schemas, which need not be read. -/
def metaSchemaRoots : List String :=
  ["https://json-schema.org/draft/2020-12/", "https://json-schema.org/draft/2019-09/",
    "http://json-schema.org/draft-07/", "http://json-schema.org/draft-06/",
    "http://json-schema.org/draft-04/"]

/-- Whether a reference is to a meta-schema. -/
def isMetaSchemaReference (reference : String) : Bool :=
  metaSchemaRoots.any fun root => root.toList.isPrefixOf reference.toList

/-- The value at a pointer; the empty pointer leads to the value itself. -/
def valueAt? : Json → List (List Char) → Option Json
  | j, [] => some j
  | .arr xs, s :: rest =>
    match (Json.Pointer.toIndex? s).bind fun i => xs[i]? with
    | some x => valueAt? x rest
    | none => none
  | j, s :: rest =>
    match j.get? (String.ofList (Json.Pointer.unescape s)) with
    | some v => valueAt? v rest
    | none => none

/-- The value that a fragment leads to, if it is a pointer. -/
def fragmentValue? (schema : Json) (fragment : List Char) : Option Json :=
  match fragment with
  | [] => some schema
  | '/' :: _ => valueAt? schema (Json.Pointer.rawSegments fragment)
  | _ => none

/-- The references met so far. -/
structure Met where
  /-- Each reference with the base it stands below. -/
  references : List (String × String)
  /-- The URIs that they name, in the order in which they were met. -/
  targets : List String

namespace Met

/-- Notes the references of one schema, without its subschemas. A reference into the schema itself
is followed, because no keyword need lead to the place it names. What it leads to is inside the
schema and holds two new references at most, so twice the number of objects bounds their chain. -/
def note (base : String) : Nat → Json → Met → Except ReferenceError Met
  | 0, _, met => .ok met
  | fuel + 1, schema, met =>
    let texts := ["$ref", "$schema"].filterMap fun k => (schema.get? k).bind Json.text?
    texts.foldlM (fun (met : Met) text =>
      if isMetaSchemaReference text || text == "#" || met.references.contains (base, text) then
        .ok met
      else
        -- Noted before it is followed, so that a circle of references ends.
        let met := { met with references := (base, text) :: met.references }
        if text.toList.head? == some '#' then
          match fragmentValue? schema (text.toList.dropWhile (· == '#')) with
          | some v => note base fuel v met
          | none => .ok met
        else
          match Uri.resolve base text with
          | .error e => .error (.unresolved e)
          | .ok uri => .ok { met with targets := met.targets ++ [uri] }) met

/-- Notes the references of one schema below a base. Names of the scheme `urn` are no base. -/
def ofSchema (base : String) (schema : Json) (met : Met) : Except ReferenceError Met :=
  if "urn:".toList.isPrefixOf base.toList then .ok met
  else note base (2 * schema.objects + 1) schema met

end Met

/-- The store so far and what is still to be looked at. -/
structure Collection where
  /-- The store so far. -/
  store : Store
  /-- The references met so far. -/
  met : Met
  /-- Schemas that still have to be looked at, each with its base. -/
  queue : List (String × Resource)
  /-- The URIs whose schemas were read, in the order of reading. -/
  read : List String

namespace Collection

/-- The subschemas of a schema that are objects, each with its draft. No other schema has a name or
refers to anything. -/
def subresources (r : Resource) : Except ReferenceError (List Resource) :=
  ((r.draft.subschemas r.schema).filter Json.isObject).mapM fun s =>
    match r.draft.detect s with
    | .ok d => .ok ⟨d, s⟩
    | .error uri => .error (.unknownDraft uri)

/-- The base inside a schema that stands below a base: the one it gives itself, or the same. -/
def baseInside (base : String) (r : Resource) : Except ReferenceError String :=
  match r.id? with
  | none => .ok base
  | some id =>
    match Uri.resolve base id with
    | .error e => .error (.unresolved e)
    | .ok uri => .ok uri

/-- Looks at one schema: its URI, its anchors, its references and its subschemas. -/
def look (c : Collection) (base : String) (r : Resource) : Except ReferenceError Collection := do
  let base' ← baseInside base r
  -- A schema without a name of its own is known by the schema around it.
  let store := if r.id?.isSome then c.store.add base' r else c.store
  let met ← c.met.ofSchema base' r.schema
  let subs ← subresources r
  .ok { c with
    store := store.addAnchors base' r
    met := met
    queue := c.queue ++ subs.map fun s => (base', s) }

/-- Looks at everything in the queue. -/
def drain : Nat → Collection → Except ReferenceError Collection
  | 0, c => .ok c
  | fuel + 1, c =>
    match c.queue with
    | [] => .ok c
    | (base, r) :: rest =>
      match look { c with queue := rest } base r with
      | .error e => .error e
      | .ok c => drain fuel c

/-- A bound for the number of schemas to look at: those in the queue and all objects in them. -/
def queued (c : Collection) : Nat := c.queue.foldr (fun p n => 1 + p.2.schema.objects + n) 0

/-- The draft of a schema that was read for a schema of draft `d`. -/
def resourceOf (d : Draft) (schema : Json) : Except ReferenceError Resource :=
  match d.detect schema with
  | .ok d => .ok ⟨d, schema⟩
  | .error uri => .error (.unknownDraft uri)

/-- The part of a schema that the fragment of its URI names, if it is an object. It is looked at on
its own, because no keyword need lead to it. -/
def named (d : Draft) (uri : String) (schema : Json) :
    Except ReferenceError (List (String × Resource)) :=
  match ((Uri.fragment? uri).bind (fragmentValue? schema)).filter Json.isObject with
  | none => .ok []
  | some v => (resourceOf d v).map fun r => [(Uri.withoutFragment uri, r)]

/-- Puts a schema that was read for a URI into the store and into the queue. -/
def receive (d : Draft) (c : Collection) (uri : String) (schema : Json) :
    Except ReferenceError Collection := do
  let name := Uri.withoutFragment uri
  let r ← resourceOf d schema
  let inside ← named d uri schema
  .ok { c with store := c.store.add name r, queue := c.queue ++ inside ++ [(name, r)] }

/-- Reads the schemas of URIs that the store does not have. A failure comes with what was read
before it. -/
def fetch (retrieve : Retrieve) (d : Draft) :
    List String → Collection → Except (List String × ReferenceError) Collection
  | [], c => .ok c
  | uri :: rest, c =>
    let name := Uri.withoutFragment uri
    -- Read in an earlier round, or for an earlier URI of this one.
    if (c.store.resource? name).isSome then fetch retrieve d rest c
    else
      match retrieve name with
      | .error reason => .error (c.read, .unretrievable name reason)
      | .ok schema =>
        let read := c.read ++ [name]
        match receive d { c with read := read } uri schema with
        | .error e => .error (read, e)
        | .ok c => fetch retrieve d rest c

/-- Looks at the queue and reads what was met, until nothing new is met. Each round reads at least
one schema of a new URI. -/
def rounds (retrieve : Retrieve) (d : Draft) :
    Nat → Collection → List String × Except ReferenceError Store
  | 0, c => (c.read, .ok c.store)
  | fuel + 1, c =>
    match drain (c.queued + 1) c with
    | .error e => (c.read, .error e)
    | .ok c =>
      if c.met.targets.isEmpty then (c.read, .ok c.store)
      else
        -- The references stay, so that nothing is met for the first time twice.
        match fetch retrieve d c.met.targets { c with met := ⟨c.met.references, []⟩ } with
        | .error (read, e) => (read, .error e)
        | .ok c => rounds retrieve d fuel c

end Collection

/-- How many rounds of reading are made at most. -/
def roundLimit : Nat := Nat.pow 2 20

/-- The store for a schema with the given base: the meta-schemas and all that it refers to. Comes
with the URIs whose schemas were read. -/
def collect (retrieve : Retrieve) (base : String) (r : Resource) :
    List String × Except ReferenceError Store :=
  Collection.rounds retrieve r.draft roundLimit
    ⟨Store.standard.add base r, ⟨[], []⟩, [(base, r)], []⟩

end DocCheck.Schema
