import DocCheck.Proofs.Tighten.Reached

/-!
# Closed places

Wherever tightening comes, an open schema is closed: it refuses every object with a member that it
does not list. Where it comes is a matter of positions. It comes to the root of the schema and of
every file that is read with it, and from the position of a subschema to all subschemas in the
values of its keywords, but for three keywords that it takes for data. What a reference finds below
one of these, or below a keyword without meaning, stays open.

Nothing in this is read off what tightening did. `Gathered` says what store of written schemas goes
with a tight validator. An atlas that charts both stores gives a URI only positions that the URI may
stand for among what was read, and `Means` leads from there by the text of a reference. Whether it
leads to the position of a subschema is a question about the written document.

* `not_accepts_of_unlisted` — a closed schema refuses members that it does not list;
* `hasSchemaAt`, `hasSchemaAt_of_leadsToSubschema` — the keywords that hold schemas;
* `skippedKeywords`, `isSchema_below_iff` — those that are taken for data, and all others;
* `Place.Tightened`, `Place.LeadsOn` — what becomes of a place, and what it leads to;
* `tight_closes_reached` — both hold of every place that a tight validator reaches.
-/

namespace DocCheck.Schema

open Json (lookup)

/-! ### Listed members -/

/-- A map of schemas is tightened under its names. -/
theorem tightenMap_names (v : Json) :
    (tightenMap v).members.map Prod.fst = v.members.map Prod.fst := by
  cases v with
  | obj ms =>
    change (tightenNamed ms).map Prod.fst = ms.map Prod.fst
    rw [tightenNamed_eq_map, List.map_map]
    rfl
  | _ => rfl

/-- A tightened schema lists the members that it was written to list. -/
theorem listedSelectors_tighten (ms : List (String × Json)) :
    listedSelectors (close ms (tightenMembers ms)) = listedSelectors ms := by
  have hmap : ∀ (f : String → Selector) (v : Json),
      ((tightenMap v).members.map fun m => f m.1) = v.members.map fun m => f m.1 := by
    intro f v
    have h := congrArg (List.map f) (tightenMap_names v)
    rwa [List.map_map, List.map_map] at h
  have helim : ∀ (key : String) (f : String → Selector), Carrier.ofKeyword key = .named →
      key ≠ "additionalProperties" →
      ((lookup key (close ms (tightenMembers ms))).elim [] fun v => v.members.map fun m => f m.1) =
        (lookup key ms).elim [] fun v => v.members.map fun m => f m.1 := by
    intro key f hc hk
    rw [lookup_close_of_ne hk]
    cases lookup key ms with
    | none => rfl
    | some v =>
      have hv : tightenValue key v = tightenMap v := by
        rw [Role.tightenValue_eq_used, Role.ofMember, hc]
        rfl
      rw [Option.map_some, Option.elim_some, Option.elim_some, hv, hmap f v]
  unfold listedSelectors
  rw [helim "properties" .name rfl (by decide),
    helim "patternProperties" patternSelector rfl (by decide)]

/-! ### Refusing -/

/-- An object with a member that no entry is for is refused. -/
theorem closed_faults_ne_nil {entries : List (Selector × Rule)} {v : Json} {m : String × Json}
    (hm : m ∈ v.members) (hun : ∀ e ∈ entries, e.1.selects m.1 = false)
    (seen : Json → Coverage) : (Rule.closed entries).faults seen v ≠ [] := by
  intro h
  have hdemand := (List.append_eq_nil_iff.mp h).2
  have hmem : m ∈ v.members.filter fun m => !entries.any fun e => e.1.selects m.1 := by
    rw [List.mem_filter, Bool.not_eq_true', List.any_eq_false]
    exact ⟨hm, fun e he => Bool.eq_false_iff.mp (hun e he)⟩
  unfold Rule.demand at hdemand
  split at hdemand
  · next hempty =>
    rw [List.isEmpty_iff] at hempty
    rw [hempty] at hmem
    exact nomatch hmem
  · cases hdemand

theorem not_accepts_inTurn {rules : List Rule} {r : Rule} (hr : r ∈ rules) {v : Json}
    (h : ∀ seen, r.faults seen v ≠ []) : (Rule.inTurn rules).accepts v = false := by
  rw [Rule.accepts, List.isEmpty_eq_false_iff]
  intro hnil
  exact h _ (List.flatMap_eq_nil_iff.mp hnil r hr)

/-- **Closing.** At the position of a subschema, an open schema refuses every object with a member
that it does not list, whatever references lead to. -/
theorem not_accepts_of_unlisted {p : Place} (hp : p.Sound) (hschema : p.position.IsSchema)
    (hread : p.reads "additionalProperties") {ms : List (String × Json)} (hw : p.written = .obj ms)
    (hopen : isOpen ms) {v : Json} {m : String × Json} (hm : m ∈ v.members)
    (hun : isListed ms m.1 = false) (follow : Follow) :
    (p.target.compile.rule follow).accepts v = false := by
  have hused := Position.Holds.used_eq hp
  rw [(Position.Holds.isSchema_iff hp).mp hschema, hw, Role.used_schema] at hused
  obtain ⟨scope, position, written, used⟩ := p
  obtain rfl : written = .obj ms := hw
  obtain rfl : used = tighten (.obj ms) := hused
  simp only [Place.reads, Bool.and_eq_true, Bool.not_eq_true'] at hread
  obtain ⟨⟨hhidden, hvocab⟩, _⟩ := hread
  have hselectors := listedSelectors_tighten ms
  have hclosed := lookup_close_of_isOpen hopen
  have hprops := isSome_lookup_close_properties hopen
  have hhidden' : (scope.draft.referenceHidesSiblings &&
      (lookup "$ref" (close ms (tightenMembers ms))).isSome) = false := by
    rw [lookup_close_of_ne (by decide), Option.isSome_map]
    exact hhidden
  change ((Target.compile ⟨scope, .obj (close ms (tightenMembers ms))⟩).rule follow).accepts v = _
  generalize close ms (tightenMembers ms) = ns at *
  rw [compile_obj hhidden', rule_all]
  -- The part that closes the schema is one of its parts, and it refuses the member.
  have hpart := closed_mem_memberParts hvocab hprops hclosed
  refine not_accepts_inTurn (List.mem_map_of_mem hpart) fun seen => ?_
  rw [Node.rule, entryRules_eq_map]
  refine closed_faults_ne_nil hm (fun e he => ?_) seen
  obtain ⟨entry, hentry, rfl⟩ := List.mem_map.mp he
  have hsel : entry.1 ∈ listedSelectors ms := by
    rw [← hselectors, ← listedEntries_map_fst scope ns]
    exact List.mem_map_of_mem hentry
  rw [isListed, List.any_eq_false] at hun
  exact Bool.eq_false_iff.mpr (hun entry.1 hsel)

/-- At the positions of subschemas an open schema gets `additionalProperties: false`, and elsewhere
it goes on saying nothing about it. -/
theorem used_additionalProperties {p : Place} (hp : p.Sound) {ms : List (String × Json)}
    (hw : p.written = .obj ms) (hopen : isOpen ms) :
    (p.position.IsSchema → p.used.get? "additionalProperties" = some (.bool false)) ∧
      (¬ p.position.IsSchema → p.used.get? "additionalProperties" = none) := by
  have hiff := Position.Holds.isSchema_iff hp
  rw [Position.Holds.used_eq hp, hw]
  constructor
  · intro hschema
    rw [hiff.mp hschema]
    exact lookup_close_of_isOpen hopen
  · intro hschema
    rw [Role.used_obj, if_neg fun h => hschema (hiff.mpr h.1)]
    exact Role.lookup_usedMembers_eq_none hopen

/-! ### Where tightening comes -/

/-- Whether a keyword has a schema where some steps lead from its value, in any draft. -/
def hasSchemaAt (keyword : String) (value : Json) : List Json.Step → Bool
  | [] =>
    ["additionalProperties", "additionalItems", "not", "if", "then", "else", "contains",
      "propertyNames", "unevaluatedItems", "unevaluatedProperties"].contains keyword ||
    keyword == "items" && !value.isArray
  | [.index _] => ["items", "prefixItems", "allOf", "anyOf", "oneOf"].contains keyword
  | [.key _] =>
    ["properties", "patternProperties", "definitions", "$defs", "dependentSchemas",
      "dependencies"].contains keyword
  | _ => false

/-- The keywords that apply subschemas which they hold directly. -/
def directKeywords : List String :=
  ["additionalItems", "additionalProperties", "allOf", "anyOf", "contains", "else", "if", "items",
    "not", "oneOf", "prefixItems", "propertyNames", "then", "unevaluatedItems",
    "unevaluatedProperties"]

/-- Whether a value is of the kind that a keyword asks for, a list of schemas or no list. Under
`items` it may be either. -/
def isKindFor (keyword : String) (value : Json) : Bool :=
  keyword == "items" ||
    value.isArray == ["prefixItems", "allOf", "anyOf", "oneOf"].contains keyword

/-- **Subschemas.** Where a keyword leads to an object, it has a schema. -/
theorem hasSchemaAt_of_leadsToSubschema {k : String} {steps : List Json.Step} {v w : Json}
    (hsteps : leadsToSubschema k steps) (hw : v.at? steps = some w) (hobject : w.isObject)
    (hkind : isKindFor k v) : hasSchemaAt k v steps := by
  -- Keyword by keyword, in a list that has all that hold schemas directly.
  have hlisted : Holding.ofKeyword k = .direct → k ∈ directKeywords := by
    intro h
    unfold Holding.ofKeyword at h
    split at h
    · cases h
    · split at h
      · next hk => exact List.contains_iff_mem.mp hk
      · cases h
  unfold isKindFor at hkind
  unfold leadsToSubschema at hsteps
  split at hsteps
  -- The value of the keyword, an item of it, or a member of it.
  · next hk =>
    obtain rfl : v = w := Option.some.inj hw
    have hv : v.isArray = false := by
      cases v with
      | obj ms => rfl
      | _ => exact nomatch hobject
    have hwhole : ∀ k ∈ directKeywords,
        (k == "items" || false == ["prefixItems", "allOf", "anyOf", "oneOf"].contains k) = true →
        (["additionalProperties", "additionalItems", "not", "if", "then", "else", "contains",
          "propertyNames", "unevaluatedItems", "unevaluatedProperties"].contains k ||
          k == "items" && !false) = true := by decide
    unfold hasSchemaAt
    rw [hv] at hkind ⊢
    exact hwhole k (hlisted hk) hkind
  · next hk =>
    rw [Json.at?_singleton] at hw
    have hv : v.isArray = true := by
      cases v with
      | arr xs => rfl
      | _ => exact nomatch hw
    have hitem : ∀ k ∈ directKeywords,
        (k == "items" || true == ["prefixItems", "allOf", "anyOf", "oneOf"].contains k) = true →
        ["items", "prefixItems", "allOf", "anyOf", "oneOf"].contains k = true := by decide
    rw [hv] at hkind
    exact hitem k (hlisted hk) hkind
  · next hk =>
    have hmember : ∀ k ∈ ["dependencies", "dependentSchemas", "patternProperties", "properties"],
        ["properties", "patternProperties", "definitions", "$defs", "dependentSchemas",
          "dependencies"].contains k = true := by decide
    unfold Holding.ofKeyword at hk
    split at hk
    · next hmem => exact hmember k (List.contains_iff_mem.mp hmem)
    · split at hk <;> cases hk
  · cases hsteps

/-- The keywords with a schema that tightening takes for data. -/
def skippedKeywords : List String := ["propertyNames", "unevaluatedItems", "unevaluatedProperties"]

/-- **Keywords.** From the position of a subschema, every keyword leads to positions of subschemas,
but for those that are skipped. -/
theorem isSchema_below_iff {p : Position} {ms : List (String × Json)} {used : Json}
    (h : p.Holds (.obj ms) used) (hp : p.IsSchema) {k : String} {v w : Json}
    {steps : List Json.Step} (hv : lookup k ms = some v) (hsteps : hasSchemaAt k v steps)
    (hw : v.at? steps = some w) :
    (p.below (.key k :: steps)).IsSchema ↔ k ∉ skippedKeywords := by
  have hchild : (Json.obj ms).child? (.key k) = some v := hv
  have hat : (Json.obj ms).at? (.key k :: steps) = some w := by
    rw [Json.at?_of_child hchild, hw]
  obtain ⟨u, _, hbelow⟩ := h.exists_below hat
  rw [hbelow.isSchema_iff, h.role_below, h.isSchema_iff.mp hp, Role.along_of_child _ hchild]
  change (Role.ofMember k v).along v steps = .schema ↔ _
  unfold hasSchemaAt at hsteps
  split at hsteps
  -- Only where the value is the schema there are keywords that are skipped.
  · simp only [Bool.or_eq_true, Bool.and_eq_true, Bool.not_eq_true', beq_iff_eq,
      List.contains_iff_mem] at hsteps
    rcases hsteps with hk | ⟨rfl, harray⟩
    · have hcarrier : ∀ k ∈ ["additionalProperties", "additionalItems", "not", "if", "then", "else",
          "contains", "propertyNames", "unevaluatedItems", "unevaluatedProperties"],
          Carrier.ofKeyword k = if k ∈ skippedKeywords then .data else .single := by decide
      unfold Role.ofMember
      rw [hcarrier k hk]
      by_cases hskipped : k ∈ skippedKeywords
      · rw [if_pos hskipped]
        exact iff_of_false Role.noConfusion (not_not_intro hskipped)
      · rw [if_neg hskipped]
        exact iff_of_true rfl hskipped
    · change (if v.isArray then Role.items else .schema) = _ ↔ _
      rw [harray, if_neg Bool.false_ne_true]
      exact iff_of_true rfl (by decide)
  · rw [List.contains_iff_mem] at hsteps
    have hnot : ∀ k ∈ "items" :: Carrier.listKeywords, k ∉ skippedKeywords := by decide
    rw [Json.at?_singleton] at hw
    cases v with
    | arr xs =>
      rw [Role.ofMember_list hsteps, Role.along_of_child _ hw]
      exact iff_of_true rfl (hnot k hsteps)
    | _ => cases hw
  · rw [List.contains_iff_mem] at hsteps
    have hnot : ∀ k ∈ Carrier.namedKeywords, k ∉ skippedKeywords := by decide
    rw [Json.at?_singleton] at hw
    rw [Role.ofMember_named hsteps, Role.along_of_child _ hw]
    exact iff_of_true rfl (hnot k hsteps)
  · cases hsteps

/-! ### Tight validators -/

/-- Keywords and references lead on from a place. Where they lead in the schema as it was written,
they lead in what is used, and that is reached at the position that they say. -/
structure Place.LeadsOn (p : Place) (a : Atlas) (written used : Store) (root : Place) : Prop where
  /-- To the subschemas in the value of a keyword. -/
  keyword : ∀ {k : String} {steps : List Json.Step} {w : Json} {scope : Scope}, p.reads k →
    leadsToSubschema k steps → p.written.at? (.key k :: steps) = some w →
    p.scope.inside w = .ok scope →
    ∃ u, p.used.at? (.key k :: steps) = some u ∧ p.scope.inside u = .ok scope ∧
      Reached a written used root ⟨scope, p.position.below (.key k :: steps), w, u⟩
  /-- To what a reference means. -/
  reference : ∀ {r : Reference} {scope : Scope} {w : Json}, p.Refers r →
    written.target r = .ok (some ⟨scope, w⟩) →
    ∃ position u, Means a written r position ∧ used.target r = .ok (some ⟨scope, u⟩) ∧
      Reached a written used root ⟨scope, position, w, u⟩

/-- What tightening does at a place goes by the position of the place alone. -/
structure Place.Tightened (p : Place) : Prop where
  /-- From the position of a subschema, every keyword leads to positions of subschemas, but for
  those that are skipped. -/
  keyword : p.position.IsSchema → ∀ {ms : List (String × Json)} {k : String} {v w : Json}
    {steps : List Json.Step}, p.written = .obj ms → lookup k ms = some v → hasSchemaAt k v steps →
    v.at? steps = some w → ((p.position.below (.key k :: steps)).IsSchema ↔ k ∉ skippedKeywords)
  /-- So every object that a keyword applies stands at the position of a subschema, if the keyword
  is not skipped and its value is of the kind that it asks for. -/
  applied : p.position.IsSchema → ∀ {ms : List (String × Json)} {k : String} {v w : Json}
    {steps : List Json.Step}, p.written = .obj ms → lookup k ms = some v →
    leadsToSubschema k steps → v.at? steps = some w → w.isObject → isKindFor k v →
    k ∉ skippedKeywords →
    (p.position.below (.key k :: steps)).IsSchema
  /-- At the position of a subschema, an open schema is closed, and refuses every object with a
  member that it does not list. -/
  closed : p.position.IsSchema → ∀ {ms : List (String × Json)}, p.written = .obj ms →
    IsOpenSchema p.written → p.used.get? "additionalProperties" = some (.bool false) ∧
      (p.reads "additionalProperties" → ∀ v m, m ∈ v.members → isListed ms m.1 = false →
        ∀ follow, (p.target.compile.rule follow).accepts v = false)
  /-- At any other position, it stays open. -/
  left : ¬ p.position.IsSchema → IsOpenSchema p.written →
    p.used.get? "additionalProperties" = none

theorem Place.Sound.tightened {p : Place} (hp : p.Sound) : p.Tightened where
  keyword hschema {ms k v w steps} hw hv hsteps hat := by
    unfold Place.Sound at hp
    rw [hw] at hp
    exact isSchema_below_iff hp hschema hv hsteps hat
  applied hschema {ms k v w steps} hw hv hsteps hat hobject hkind hskipped := by
    unfold Place.Sound at hp
    rw [hw] at hp
    have hhas := hasSchemaAt_of_leadsToSubschema hsteps hat hobject hkind
    exact (isSchema_below_iff hp hschema hv hhas hat).mpr hskipped
  closed hschema {ms} hw hopen := by
    rw [hw] at hopen
    have hopen := isOpen_iff.mpr hopen
    refine ⟨(used_additionalProperties hp hw hopen).1 hschema, fun hread v m hm hun follow => ?_⟩
    exact not_accepts_of_unlisted hp hschema hread hw hopen hm hun follow
  left hschema hopen := by
    obtain ⟨ms, hw, hms⟩ := hopen.exists_members
    exact (used_additionalProperties hp hw hms).2 hschema

/-- **Tight validators.** What a tight validator has at its root is the tightened schema. Every
place that keywords and references reach from there, in any number of steps, stands at a position of
what was read: at the root of the schema, where a URI, a pointer or an anchor says, or where a
keyword leads from there. At positions of subschemas an open schema is closed: where its keywords
are read it then refuses every object with a member that it does not list. At every other position
it stays open. -/
theorem tight_closes_reached {files : Files} {path : String} {kind : Kind} {schema : Json}
    (hs : schema.SortedKeys) {source : String} {tight : Validator}
    (ht : (Validator.compile kind schema source ⟨files, path, .tight⟩).result = .ok tight) :
    ∃ scope d base written a,
      tight.program.root = (Place.root scope schema).target ∧
      Gathered (SchemaDir.retrieve ⟨files, path, .loose⟩) schema d base written scope ∧
      a.Charts ⟨base, schema, SchemaDir.retrieve ⟨files, path, .loose⟩⟩ written
        tight.program.store ∧
      ∀ p, Reached a written tight.program.store (.root scope schema) p →
        p.LeadsOn a written tight.program.store (.root scope schema) ∧ p.Tightened := by
  obtain ⟨hroot, d, base, written, hg, hst⟩ := gathered_of_tight hs ht
  obtain ⟨a, ha⟩ := hst.exists_atlas
  refine ⟨tight.program.root.scope, d, base, written, a, congrArg (Target.mk _) hroot, hg, ha, ?_⟩
  intro p hp
  -- All that is known of a reached place follows from its standing at its position.
  have hsound := Place.sound_root tight.program.root.scope hs
  refine ⟨⟨fun hk hsteps hw hscope => ?_, fun hr hw => ?_⟩, (hp.sound ha hsound).tightened⟩
  · exact hp.exists_keyword ha hsound hk hsteps hw hscope
  · exact hp.exists_reference ha hr hw

/-! ### A pointer and a sibling file

The schema of servers refers to one of its definitions and to a file beside it. Both are closed,
because of where they stand. -/

/-- A schema for objects that list one member. -/
def recordSchema (name : String) : Json :=
  .obj [("properties", .obj [(name, .obj [])]), ("type", .str "object")]

def portSchema : Json := recordSchema "number"

def hostSchema : Json := recordSchema "name"

/-- A schema for servers, each with a port and a host. -/
def serverSchema : Json :=
  .obj
    [("$schema", .str "http://json-schema.org/draft-04/schema#"),
      ("definitions", .obj [("port", portSchema)]),
      ("properties", .obj
        [("host", .obj [("$ref", .str "host.json")]),
          ("port", .obj [("$ref", .str "#/definitions/port")])])]

def hostText : String :=
  "\x7b\"type\": \"object\", \"properties\": \x7b\"name\": \x7b\x7d\x7d\x7d"

/-- A directory with the schema for hosts. -/
def hostFiles : Files where
  read path := if path = "./host.json" then .ok hostText else .error .notFound

/-- What is read for the schema for servers. -/
abbrev serverSources : Sources :=
  ⟨Uri.rootBase, serverSchema, SchemaDir.retrieve ⟨hostFiles, ".", .loose⟩⟩

theorem retrieve_hostFiles {uri : String} {document : Json}
    (h : serverSources.retrieve uri = .ok document) : document = hostSchema := by
  have htext : Json.read hostText = .ok hostSchema := rfl
  unfold serverSources SchemaDir.retrieve at h
  dsimp only at h
  split at h
  · cases h
  · next path _ =>
    by_cases hpath : path = "./host.json"
    · have hfile : hostFiles.read path = .ok hostText := if_pos hpath
      simp only [hfile, htext] at h
      cases h
      rfl
    · have hfile : hostFiles.read path = .error .notFound := if_neg hpath
      simp only [hfile] at h
      cases h

theorem unnamed_serverSources : serverSources.Unnamed := by
  have hschema : serverSchema.everywhere Sources.isUnnamed = true := by decide +kernel
  have hfile : hostSchema.everywhere Sources.isUnnamed = true := by decide +kernel
  refine Sources.unnamed_of_everywhere hschema fun {uri document} h => ?_
  have hdocument : document = hostSchema := retrieve_hostFiles h
  rw [hdocument, hfile]

/-- URIs stand for what is read for them, unless that is a meta-schema. -/
theorem ofUri_serverSources {a : Atlas} {written used : Store}
    (ha : a.Charts serverSources written used) {uri : String} {r : Resource}
    (hr : written.resource? uri = some r) (hmeta : ∀ m ∈ Store.metaSchemas, m.schema ≠ r.schema) :
    uri = Uri.rootBase ∧ a.ofUri uri = .root serverSchema ∨
      (serverSources.retrieve uri).isOk ∧ a.ofUri uri = .root hostSchema := by
  obtain ⟨hnames, hat⟩ := ha.names hr
  rcases hnames.of_unnamed unnamed_serverSources with h | ⟨document, h, hp⟩ | ⟨m, hm, hp⟩
  · exact .inl h
  · have hdocument : document = hostSchema := retrieve_hostFiles h
    rw [hdocument] at h hp
    exact .inr ⟨congrArg Except.isOk h, hp⟩
  · rw [hp] at hat
    exact absurd (Option.some.inj hat) (hmeta m hm)

/-- The reference to the definition and the one to the file, in the scope of the schema. -/
def portReference : Reference := ⟨.start .draft4 Uri.rootBase, "$ref", some "#/definitions/port"⟩

def hostReference : Reference := ⟨.start .draft4 Uri.rootBase, "$ref", some "host.json"⟩

theorem eq_ok_of_toOption {ε α : Type} {x : Except ε α} {a : α} (h : x.toOption = some a) :
    x = .ok a := by
  cases x with
  | error e => cases h
  | ok b => rw [Option.some.inj h]

/-- What is gathered for the schema for servers. -/
theorem gathered_serverSchema {d : Draft} {base : String} {written : Store} {scope : Scope}
    (h : Gathered (SchemaDir.retrieve ⟨hostFiles, ".", .loose⟩) serverSchema d base written scope) :
    base = Uri.rootBase ∧ scope = .start .draft4 Uri.rootBase ∧
      written.resource? Uri.rootBase = some ⟨.draft4, serverSchema⟩ ∧
      written.resource? "json-schema:///host.json" = some ⟨.draft4, hostSchema⟩ ∧
      written.target portReference =
        .ok (some ⟨⟨.draft4, Uri.rootBase, [Uri.rootBase], .full⟩, portSchema⟩) ∧
      written.target hostReference =
        .ok (some ⟨⟨.draft4, "json-schema:///host.json", [Uri.rootBase], .full⟩, hostSchema⟩) := by
  have hdraft : (Program.draftOf (SchemaDir.retrieve ⟨hostFiles, ".", .loose⟩)
      serverSchema).2.toOption = some .draft4 := by decide +kernel
  have hbase : (Collection.baseInside Uri.rootBase ⟨.draft4, serverSchema⟩).toOption =
      some Uri.rootBase := by decide +kernel
  -- Draft and base come first, as the store is collected for these.
  rw [h.draft_eq] at hdraft
  obtain rfl : d = .draft4 := Option.some.inj hdraft
  rw [h.base_eq] at hbase
  obtain rfl : base = Uri.rootBase := Option.some.inj hbase
  have hstore : (collect (SchemaDir.retrieve ⟨hostFiles, ".", .loose⟩) Uri.rootBase
      ⟨.draft4, serverSchema⟩).2.toOption.all (fun st =>
        (Program.rootScope st Uri.rootBase ⟨.draft4, serverSchema⟩).toOption =
          some (.start .draft4 Uri.rootBase) ∧
        st.resource? Uri.rootBase = some ⟨.draft4, serverSchema⟩ ∧
        st.resource? "json-schema:///host.json" = some ⟨.draft4, hostSchema⟩ ∧
        (st.target portReference).toOption =
          some (some ⟨⟨.draft4, Uri.rootBase, [Uri.rootBase], .full⟩, portSchema⟩) ∧
        (st.target hostReference).toOption =
          some (some ⟨⟨.draft4, "json-schema:///host.json", [Uri.rootBase], .full⟩,
            hostSchema⟩)) = true := by decide +kernel
  rw [h.store_eq] at hstore
  obtain ⟨hscope, hroot, hhost, hport, hfile⟩ := of_decide_eq_true hstore
  rw [h.scope_eq] at hscope
  exact ⟨rfl, Option.some.inj hscope, hroot, hhost, eq_ok_of_toOption hport,
    eq_ok_of_toOption hfile⟩

/-- The pointer leads to a place in the schema itself. -/
theorem position_of_portReference {a : Atlas} {written used : Store} {p : Position}
    (ha : a.Charts serverSources written used)
    (hbase : written.resource? Uri.rootBase = some ⟨.draft4, serverSchema⟩)
    (h : Means a written portReference p) :
    p = (Position.root serverSchema).below [.key "definitions", .key "port"] := by
  have hposition : a.ofUri Uri.rootBase = .root serverSchema := by
    rcases ofUri_serverSources ha hbase (by decide +kernel) with ⟨_, h⟩ | ⟨h, _⟩
    · exact h
    · exact nomatch h
  have hdivide : Store.divide Uri.rootBase "#/definitions/port" =
      .ok (Uri.rootBase, '/' :: "definitions/port".toList) := by decide +kernel
  have hspells : Spells serverSchema ["definitions".toList, "port".toList]
      [.key "definitions", .key "port"] :=
    .cons rfl rfl (.cons rfl rfl (.nil _))
  have hpointer : Means a written portReference
      ((a.ofUri Uri.rootBase).below [.key "definitions", .key "port"]) :=
    .pointer hdivide hbase rfl hspells
  rw [h.unique hpointer, hposition]

/-- The name of the file leads to the root of what is read from it. -/
theorem position_of_hostReference {a : Atlas} {written used : Store} {p : Position}
    (ha : a.Charts serverSources written used)
    (hfile : written.resource? "json-schema:///host.json" = some ⟨.draft4, hostSchema⟩)
    (h : Means a written hostReference p) : p = .root hostSchema := by
  have hdivide : Store.divide Uri.rootBase "host.json" = .ok ("json-schema:///host.json", []) := by
    decide +kernel
  have hwhole : Means a written hostReference (a.ofUri "json-schema:///host.json") :=
    .whole hdivide
  rw [h.unique hwhole]
  rcases ofUri_serverSources ha hfile (by decide +kernel) with ⟨h, _⟩ | ⟨_, h⟩
  · exact absurd h (by decide)
  · exact h

theorem not_accepts_recordSchema {p : Place} {name : String} (hp : p.Tightened)
    (hschema : p.position.IsSchema) (hw : p.written = recordSchema name)
    (hreads : p.reads "additionalProperties") {v : Json} {m : String × Json} (hm : m ∈ v.members)
    (hname : m.1 ≠ name) (follow : Follow) : (p.target.compile.rule follow).accepts v = false := by
  have hopen : IsOpenSchema p.written := by
    rw [hw]
    exact ⟨.inl rfl, ⟨_, rfl⟩, rfl⟩
  have hun : isListed [("properties", .obj [(name, .obj [])]), ("type", .str "object")] m.1 =
      false := by
    change (name == m.1 || false) = false
    rw [Bool.or_false, beq_eq_false_iff_ne]
    exact hname.symm
  exact (hp.closed hschema hw hopen).2 hreads v m hm hun follow

theorem tight_closes_reached_serverSchema :
    serverSchema.SortedKeys ∧ ∃ tight,
      (Validator.compile .profile serverSchema "profiles.json" ⟨hostFiles, ".", .tight⟩).result =
        .ok tight ∧
      ∃ a written root, tight.program.root = root.target ∧
        (∃ port, Reached a written tight.program.store root port ∧
          port.position =
            (Position.root serverSchema).below [.key "definitions", .key "port"] ∧
          port.written = portSchema ∧
          ∀ v m, m ∈ v.members → m.1 ≠ "number" →
            ∀ follow, (port.target.compile.rule follow).accepts v = false) ∧
        (∃ host, Reached a written tight.program.store root host ∧
          host.position = .root hostSchema ∧ host.written = hostSchema ∧
          ∀ v m, m ∈ v.members → m.1 ≠ "name" →
            ∀ follow, (host.target.compile.rule follow).accepts v = false) := by
  have hs : serverSchema.SortedKeys := by decide +kernel
  have hok : (Validator.compile .profile serverSchema "profiles.json"
      ⟨hostFiles, ".", .tight⟩).result.isOk = true := by decide +kernel
  obtain ⟨tight, ht⟩ := exists_of_isOk hok
  obtain ⟨scope, d, base, written, a, hroot, hg, ha, hreached⟩ := tight_closes_reached hs ht
  obtain ⟨rfl, rfl, hschema, hfile, hport, hhost⟩ := gathered_serverSchema hg
  refine ⟨hs, tight, ht, a, written, _, hroot, ?_, ?_⟩
  · -- From the root through `properties` and along the pointer.
    have hsteps : leadsToSubschema "properties" [.key "port"] = true := rfl
    have hat : serverSchema.at? [.key "properties", .key "port"] =
        some (.obj [("$ref", .str "#/definitions/port")]) := rfl
    obtain ⟨u, _, _, hq⟩ := (hreached _ .root).1.keyword rfl hsteps hat rfl
    obtain ⟨position, u, hmeans, _, hp⟩ := (hreached _ hq).1.reference (.plain rfl) hport
    have hposition := position_of_portReference ha hschema hmeans
    have hsubschema : position.IsSchema := by
      rw [hposition]
      exact ⟨rfl, portSchema, .named .root (by decide) rfl rfl⟩
    refine ⟨_, hp, hposition, rfl, fun v m hm hname follow => ?_⟩
    exact not_accepts_recordSchema (hreached _ hp).2 hsubschema rfl rfl hm hname follow
  · -- From the root through `properties` and to the file.
    have hsteps : leadsToSubschema "properties" [.key "host"] = true := rfl
    have hat : serverSchema.at? [.key "properties", .key "host"] =
        some (.obj [("$ref", .str "host.json")]) := rfl
    obtain ⟨u, _, _, hq⟩ := (hreached _ .root).1.keyword rfl hsteps hat rfl
    obtain ⟨position, u, hmeans, _, hp⟩ := (hreached _ hq).1.reference (.plain rfl) hhost
    have hposition := position_of_hostReference ha hfile hmeans
    have hsubschema : position.IsSchema := by
      rw [hposition]
      exact ⟨rfl, hostSchema, .root⟩
    refine ⟨_, hp, hposition, rfl, fun v m hm hname follow => ?_⟩
    exact not_accepts_recordSchema (hreached _ hp).2 hsubschema rfl rfl hm hname follow

/-! ### A place that stays open

What stands below a keyword without meaning is data for tightening, though a reference may find a
schema there. -/

/-- A schema that refers to an open one below a keyword without meaning. -/
def strayReferenceSchema : Json :=
  .obj
    [("$ref", .str "#/x/y"),
      ("$schema", .str "http://json-schema.org/draft-04/schema#"),
      ("x", .obj
        [("y", .obj [("properties", .obj [("a", .obj [])]), ("type", .str "object")])])]

/-- The tight validator finds nothing wrong with a member that is not listed. -/
theorem strayReferenceSchema_staysOpen :
    (Validator.compile .profile strayReferenceSchema "profiles.json"
        ⟨noFiles, ".", .tight⟩).result.toOption.map
      (fun v => v.violations (.obj [("b", .num (.int 1))])) = some [] := by
  decide +kernel

end DocCheck.Schema
