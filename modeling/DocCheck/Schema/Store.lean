import DocCheck.Json.Pointer
import DocCheck.Schema.Subschemas
import DocCheck.Schema.Vocabulary
import DocCheck.Schema.Meta.Draft4
import DocCheck.Schema.Meta.Draft6
import DocCheck.Schema.Meta.Draft7
import DocCheck.Schema.Meta.Draft2019
import DocCheck.Schema.Meta.Draft2020
import DocCheck.Uri.Resolve

/-!
# Stores of schemas

A reference names a schema by a URI and, after a number sign, a pointer or an anchor. A store knows
the schema of each URI and the place of each anchor; a scope says where a reference stands.

* `Store`, `Store.standard` — the known schemas, at first those of the drafts;
* `Scope` — draft, base URI and the bases through which one came;
* `Store.lookup`, `Store.lookupRecursive` — the schema that a reference means.
-/

namespace DocCheck.Schema

/-- Why a reference means no schema. -/
inductive ReferenceError where
  /-- A schema names a draft that is not understood. -/
  | unknownDraft (uri : String)
  /-- A URI cannot be resolved. -/
  | unresolved (error : Uri.ResolveError)
  /-- No schema has this URI, and none could be read. -/
  | unretrievable (uri reason : String)
  /-- A pointer leads to nothing. -/
  | noPointer (pointer : String)
  /-- An item is asked for by a text that is no index. -/
  | noIndex (index pointer : String)
  /-- The escapes of a pointer are no text. -/
  | noText (pointer : String)
  /-- No schema has this anchor. -/
  | noAnchor (name : String)
  /-- This text can be no anchor. -/
  | badAnchor (name : String)
  deriving DecidableEq

namespace ReferenceError

def message : ReferenceError → String
  | unknownDraft uri => "Unknown specification: " ++ uri
  | unresolved e => e.message
  | unretrievable uri reason =>
    "Resource '" ++ uri ++ "' is not present in a registry and retrieving it failed: " ++ reason
  | noPointer p => "Pointer '" ++ p ++ "' does not exist"
  | noIndex i p => "Failed to parse array index '" ++ i ++ "' in pointer '" ++ p ++ "'"
  | noText p =>
    "Invalid percent encoding in pointer '" ++ p
      ++ "': the decoded bytes do not represent valid UTF-8"
  | noAnchor name => "Anchor '" ++ name ++ "' does not exist"
  | badAnchor name => "Anchor '" ++ name ++ "' is invalid"

/-- The reason given for a schema that nothing announced before. -/
def notAnnounced : String :=
  "Retrieving external resources is not supported once the registry is populated"

end ReferenceError

/-- A schema and the draft it is written for. -/
structure Resource where
  draft : Draft
  schema : Json
  deriving DecidableEq, Inhabited

/-- The name that a schema gives itself. -/
def Resource.id? (r : Resource) : Option String := r.draft.id? r.schema

/-- An anchor and the schema it stands for. -/
structure AnchorPlace where
  /-- The URI below which the anchor is known. -/
  base : String
  /-- The anchor. -/
  anchor : Draft.Anchor
  /-- The schema. -/
  resource : Resource

/-- The known schemas. What was put in later comes first. -/
structure Store where
  resources : List (String × Resource)
  anchors : List AnchorPlace

namespace Store

def resource? (st : Store) (uri : String) : Option Resource := st.resources.lookup uri

def add (st : Store) (uri : String) (r : Resource) : Store :=
  { st with resources := (uri, r) :: st.resources }

/-- Adds the anchors of a schema. -/
def addAnchors (st : Store) (uri : String) (r : Resource) : Store :=
  { st with
    anchors := ((r.draft.anchors r.schema).map fun a => ⟨uri, a, r⟩).reverse ++ st.anchors }

/-- The place of an anchor below a URI. -/
def anchorAt? (st : Store) (uri name : String) : Option AnchorPlace :=
  st.anchors.find? fun p => p.base == uri && p.anchor.name == name

/-- The place of an anchor below a URI or below the name that the schema there gives itself. -/
def anchor (st : Store) (uri name : String) : Except ReferenceError AnchorPlace :=
  let own := (st.resource? uri).bind Resource.id? |>.bind fun id =>
    (Uri.resolve Uri.rootBase id).toOption
  match st.anchorAt? uri name with
  | some p => .ok p
  | none =>
    match own.bind fun u => st.anchorAt? u name with
    | some p => .ok p
    | none => if name.toList.contains '/' then .error (.badAnchor name) else .error (.noAnchor name)

def metaSchemas : List Resource :=
  [⟨.draft4, Meta.draft4⟩, ⟨.draft6, Meta.draft6⟩, ⟨.draft7, Meta.draft7⟩]
    ++ ([Meta.draft2019, Meta.core2019, Meta.applicator2019, Meta.validation2019,
      Meta.metaData2019, Meta.format2019, Meta.content2019].map (Resource.mk .draft2019))
    ++ ([Meta.draft2020, Meta.core2020, Meta.applicator2020, Meta.unevaluated2020,
      Meta.validation2020, Meta.metaData2020, Meta.format2020, Meta.content2020].map
        (Resource.mk .draft2020))

/-- Adds a schema by the URI it gives itself. -/
def addNamed (st : Store) (r : Resource) : Store :=
  match r.id? with
  | some uri => (st.add uri r).addAnchors uri r
  | none => st

/-- The store that knows the meta-schemas. -/
def standard : Store := metaSchemas.foldl addNamed ⟨[], []⟩

end Store

/-! ### Scopes -/

/-- Where a reference stands. -/
structure Scope where
  /-- The draft of the schema around it. -/
  draft : Draft
  /-- The URI that references are relative to. -/
  base : String
  /-- The bases through which one came, the last one first. -/
  outer : List String
  /-- The groups of keywords that are read. -/
  vocabularies : Vocabularies
  deriving DecidableEq

namespace Scope

/-- The scope at the start of a schema. -/
def start (draft : Draft) (base : String) : Scope := ⟨draft, base, [], .full⟩

/-- The scope behind a step to another base. -/
def moveTo (s : Scope) (base : String) : Scope :=
  -- The first base is kept even if the step leads nowhere else.
  if s.outer.isEmpty || base != s.base then { s with base := base, outer := s.base :: s.outer }
  else { s with base := base }

/-- The scope inside a schema that may give itself a name. -/
def enter (s : Scope) (r : Resource) : Except ReferenceError Scope :=
  match r.id? with
  | none => .ok { s with draft := r.draft }
  | some id =>
    match Uri.resolve s.base id with
    | .error e => .error (.unresolved e)
    | .ok base => .ok { s.moveTo base with draft := r.draft }

end Scope

/-- A schema and the scope in which it is read. -/
structure Target where
  scope : Scope
  schema : Json
  deriving DecidableEq

namespace Store

/-! ### Looking up -/

/-- The bytes of a text in which escapes of bytes may stand. -/
def unescapeBytes : List Char → List UInt8
  | '%' :: a :: b :: rest =>
    if Uri.isHex a && Uri.isHex b then
      UInt8.ofNat (16 * Uri.hexValue a + Uri.hexValue b) :: unescapeBytes rest
    else (String.singleton '%').toUTF8.toList ++ unescapeBytes (a :: b :: rest)
  | c :: rest => (String.singleton c).toUTF8.toList ++ unescapeBytes rest
  | [] => []

/-- A text without the escapes of its bytes. -/
def unescapeText? (cs : List Char) : Option (List Char) :=
  if cs.contains '%' then (String.fromUTF8? ⟨(unescapeBytes cs).toArray⟩).map String.toList
  else some cs

/-- One step of a pointer into a value. -/
def pointerStep (pointer : String) (value : Json) (segment : List Char) :
    Except ReferenceError (Json.Step × Json) :=
  match value with
  | .arr xs =>
    match Json.Pointer.toIndex? segment with
    | none => .error (.noIndex (String.ofList segment) pointer)
    | some i =>
      match xs[i]? with
      | some x => .ok (.index i, x)
      | none => .error (.noPointer pointer)
  | j =>
    let key := String.ofList (Json.Pointer.unescapePairs segment)
    match j.get? key with
    | some v => .ok (.key key, v)
    | none => .error (.noPointer pointer)

/-- The scope at a place inside a schema, which may bring a base of its own if it is a subschema. -/
def scopeAt (scope : Scope) (path : List Json.Step) (value : Json) : Except ReferenceError Scope :=
  if scope.draft.isSchemaPlace value path then scope.enter ⟨scope.draft, value⟩ else .ok scope

/-- Follows a pointer into a schema; `seen` are the steps so far, the last one first. -/
def walk (pointer : String) (scope : Scope) (schema : Json) (seen : List Json.Step) :
    List (List Char) → Except ReferenceError Target
  | [] => .ok ⟨scope, schema⟩
  | segment :: rest =>
    match pointerStep pointer schema segment with
    | .error e => .error e
    | .ok (s, next) =>
      match scopeAt scope (s :: seen).reverse next with
      | .error e => .error e
      | .ok scope => walk pointer scope next (s :: seen) rest

/-- The schema at a pointer, which starts with a slash. -/
def atPointer (pointer : List Char) (scope : Scope) (r : Resource) :
    Except ReferenceError Target :=
  match unescapeText? (pointer.drop 1) with
  | none => .error (.noText (String.ofList pointer))
  | some cs =>
    walk (String.ofList pointer) { scope with draft := r.draft } r.schema [] (Uri.splitAt '/' cs)

/-- The place that a dynamic anchor means: that of the outermost base with one of this name. -/
def outermost (st : Store) (name : String) (found : AnchorPlace) (bases : List String) :
    AnchorPlace :=
  -- The outermost base comes last, so it has the last word.
  bases.foldl (fun p base =>
    match st.anchor base name with
    | .ok q => if q.anchor.isDynamic then q else p
    | .error _ => p) found

/-- The schema at an anchor below the base of a scope. -/
def atAnchor (st : Store) (scope : Scope) (name : String) (place : AnchorPlace) :
    Except ReferenceError Target :=
  if place.anchor.isDynamic then
    let r := (st.outermost name place scope.outer).resource
    match scope.enter r with
    | .error e => .error e
    | .ok s => .ok ⟨s, r.schema⟩
  else .ok ⟨{ scope with draft := place.resource.draft }, place.resource.schema⟩

/-- The URI and the fragment that a reference names. -/
def divide (base reference : String) : Except ReferenceError (String × List Char) :=
  match reference.toList with
  | '#' :: fragment => .ok (base, fragment)
  | cs =>
    -- Of several number signs the last one divides.
    let fragment := (cs.reverse.takeWhile (· != '#')).reverse
    let hasFragment := cs.contains '#'
    let uri := if hasFragment then cs.take (cs.length - fragment.length - 1) else cs
    match Uri.resolve base (String.ofList uri) with
    | .error e => .error (.unresolved e)
    | .ok uri => .ok (uri, if hasFragment then fragment else [])

/-- The place that a reference names. -/
def locate (st : Store) (scope : Scope) (reference : String) : Except ReferenceError Target :=
  match divide scope.base reference with
  | .error e => .error e
  | .ok (uri, fragment) =>
    match st.resource? uri with
    | none => .error (.unretrievable uri ReferenceError.notAnnounced)
    | some r =>
      match fragment with
      | [] => .ok ⟨{ scope.moveTo uri with draft := r.draft }, r.schema⟩
      | '/' :: _ => atPointer fragment (scope.moveTo uri) r
      | _ =>
        match st.anchor uri (String.ofList fragment) with
        | .error e => .error e
        | .ok p => st.atAnchor (scope.moveTo uri) (String.ofList fragment) p

/-- The groups of keywords that are read in a schema that a reference leads to. -/
def vocabularies (st : Store) (d : Draft) (schema : Json) : Vocabularies :=
  match d.detect schema with
  | .ok _ => .full
  | .error uri =>
    let meta? := ((Uri.resolve Uri.rootBase uri).toOption.bind st.resource?).map Resource.schema
    (meta?.bind Vocabularies.ofMetaSchema?).getD .full

/-- The schema that a reference means. -/
def lookup (st : Store) (scope : Scope) (reference : String) : Except ReferenceError Target :=
  (st.locate scope reference).map fun t =>
    { t with scope := { t.scope with vocabularies := st.vocabularies t.scope.draft t.schema } }

/-- Whether a schema lets schemas from which one came take its place. -/
def isRecursive (schema : Json) : Bool := schema.get? "$recursiveAnchor" == some (.bool true)

/-- Goes outward as long as schemas let it. -/
def lookupOutward (st : Store) (scope : Scope) (found : Target) :
    List String → Except ReferenceError Target
  | [] => .ok found
  | base :: rest =>
    match st.lookup scope base with
    | .error e => .error e
    | .ok t => if isRecursive t.schema then lookupOutward st scope t rest else .ok found

/-- The schema that a recursive reference means: the one around it, or the outermost one that lets
itself be taken. -/
def lookupRecursive (st : Store) (scope : Scope) : Except ReferenceError Target :=
  match st.lookup scope "#" with
  | .error e => .error e
  | .ok t => if isRecursive t.schema then st.lookupOutward scope t scope.outer else .ok t

end Store

end DocCheck.Schema
