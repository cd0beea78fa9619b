import DocCheck.Schema.Coverage
import DocCheck.Schema.Node

/-!
# Rules

A rule is a schema as two functions of a value: the faults it finds in it, and what it has looked at
of it. Each kind of keyword makes a rule from the rules of its subschemas, whatever these are.

What a schema has looked at is found out apart from its faults, and goes by rules of its own: a
member under `patternProperties` counts even if it is faulty, and where one of two alternatives
matches, both count.

* `Rule`, `Rule.apply`, `Rule.accepts` — the functions;
* `Rule.inTurn`, `Rule.select`, `Rule.allOf`, … — one for each kind of keyword.
-/

namespace DocCheck.Schema

/-- A schema as functions of a value. -/
structure Rule where
  /-- Whether the schema has keywords, and is not just `true` or `false`. -/
  hasKeywords : Bool
  /-- The faults, in order. The first argument says what the schema around a keyword has looked at
  of a value. -/
  faults : (Json → Coverage) → Json → List Fault
  /-- What has been looked at. -/
  coverage : Json → Coverage

namespace Rule

/-- The faults in a value that no schema around looks at. -/
def apply (r : Rule) (v : Json) : List Fault := r.faults (fun _ => .nothing) v

/-- Whether a value is as it should be. -/
def accepts (r : Rule) (v : Json) : Bool := (r.apply v).isEmpty

/-- A rule that looks at nothing that would count. -/
def blind (faults : Json → List Fault) : Rule := ⟨true, fun _ => faults, fun _ => .nothing⟩

def always : Rule := ⟨false, fun _ _ => [], fun _ => .nothing⟩

def never : Rule := ⟨false, fun _ v => [⟨[], [], v, .never⟩], fun _ => .nothing⟩

/-- What any of some rules has looked at. -/
def joined (rules : List Rule) (v : Json) : Coverage := .unions (rules.map fun r => r.coverage v)

/-- The rule of a schema that is looked up only when it is applied. -/
def deferred (rule : Unit → Rule) : Rule :=
  ⟨true, fun _ v => (rule ()).apply v, fun v => (rule ()).coverage v⟩

/-- Rules one behind the other; each may ask what all of them have looked at. -/
def inTurn (rules : List Rule) : Rule :=
  ⟨true, fun _ v => rules.flatMap fun r => r.faults (joined rules) v, joined rules⟩

/-- Faults as seen from a schema further up, for the same value. -/
def under (keywords : List Json.Step) (fs : List Fault) : List Fault :=
  fs.map (Fault.below [] keywords)

/-- Faults as seen from a value further up. -/
def within (step : Json.Step) (keywords : List Json.Step) (fs : List Fault) : List Fault :=
  fs.map (Fault.below [step] keywords)

/-- A single fault of the value itself, unless the test is passed. -/
def demand (passed : Bool) (keyword : String) (v : Json) (cause : Cause) : List Fault :=
  if passed then [] else [⟨[], [.key keyword], v, cause⟩]

def check (keyword : String) (c : Check) : Rule :=
  .blind fun v => (c.causes v).map fun p =>
    Fault.below [] [.key (p.2.keywordUnder keyword)] ⟨[], [], p.1, p.2⟩

/-- The rule of a schema that a keyword refers to. -/
def ref (keyword : String) (target : Rule) : Rule :=
  ⟨true, fun _ v => under [.key keyword] (target.apply v), target.coverage⟩

/-! ### Members -/

/-- The faults in one member by the rules that are for it. -/
def onMember (entries : List (Selector × Rule)) (m : String × Json) : List Fault :=
  (entries.filter fun e => e.1.selects m.1).flatMap fun e =>
    within (.key m.1) e.1.keywords (e.2.apply m.2)

/-- Whether an entry counts as having looked at a member: one for a name if the member is as it
should be, one for a pattern in any case. -/
def looksAt (m : String × Json) : Selector × Rule → Bool
  | (.name name, r) => m.1 == name && r.accepts m.2
  | (.pattern source p, _) => (Selector.pattern source p).selects m.1

/-- The members that some entries have looked at. -/
def membersSeen (entries : List (Selector × Rule)) (v : Json) : Coverage :=
  .ofNames ((v.members.filter fun m => entries.any (looksAt m)).map Prod.fst)

/-- The members that a rule for any of them accepts. -/
def membersAccepted (r : Rule) (v : Json) : Coverage :=
  .ofNames ((v.members.filter fun m => r.accepts m.2).map Prod.fst)

/-- Each entry in turn, on the members that it is for. -/
def select (entries : List (Selector × Rule)) : Rule :=
  ⟨true, fun _ v => entries.flatMap fun e => v.members.flatMap (onMember [e]),
    membersSeen entries⟩

/-- Each member in turn, by the entries that are for it; a member without one is a fault. -/
def closed (entries : List (Selector × Rule)) : Rule :=
  ⟨true,
    fun _ v =>
      let unknown := v.members.filter fun m => !entries.any fun e => e.1.selects m.1
      v.members.flatMap (onMember entries)
        ++ demand unknown.isEmpty "additionalProperties" v
          (.additionalProperties (unknown.map Prod.fst)),
    membersSeen entries⟩

/-- Each member in turn, by the entries that are for it; a member without one by the other rule. All
members that the other rule accepts count as looked at. -/
def others (entries : List (Selector × Rule)) (other : Rule) : Rule :=
  ⟨true,
    fun _ v => v.members.flatMap fun m =>
      if entries.any fun e => e.1.selects m.1 then onMember entries m
      else within (.key m.1) [.key "additionalProperties"] (other.apply m.2),
    fun v => (membersSeen entries v).union (membersAccepted other v)⟩

/-- A fault in the name of a member is a fault of the object. -/
def nameFault (value : Json) (f : Fault) : Fault :=
  ⟨[], .key "propertyNames" :: f.keywords, value, .memberName f.message⟩

/-- The names of the members, as strings. -/
def names (name : Rule) : Rule :=
  .blind fun v => v.members.flatMap fun m => (name.apply (.str m.1)).map (nameFault v)

/-- Rules for the object itself, each if it has the member. Under `dependencies` they count as
having looked at nothing. -/
def dependent (keyword : String) (entries : List (Selector × Rule)) : Rule :=
  let chosen (v : Json) := entries.flatMap fun e =>
    (v.members.filter fun m => e.1.selects m.1).map fun m => (m.1, e.2)
  ⟨true, fun _ v => (chosen v).flatMap fun p => under [.key keyword, .key p.1] (p.2.apply v),
    fun v =>
      if keyword == "dependentSchemas" then joined ((chosen v).map Prod.snd) v else .nothing⟩

/-- The members that nothing has looked at. Those that the rule refuses are one fault. -/
def unevaluatedMembers (other : Rule) : Rule :=
  ⟨true,
    fun seen v =>
      let covered := (seen v).names
      let wrong := v.members.filter fun m => !covered.contains m.1 && !other.accepts m.2
      demand wrong.isEmpty "unevaluatedProperties" v (.unevaluatedProperties (wrong.map Prod.fst)),
    membersAccepted other⟩

/-! ### Items -/

/-- The items of an array with their indices; a value of any other kind has none. -/
def itemsOf : Json → List (Json × Nat)
  | .arr xs => xs.zipIdx
  | _ => []

/-- All members and items of a value. -/
def everything (v : Json) : Coverage := ⟨v.members.map Prod.fst, (itemsOf v).map Prod.snd⟩

/-- The rule of a reference that means nothing where it is applied. It asks for nothing, and leaves
nothing over for those keywords that speak of what nothing has looked at. -/
def lost : Rule := ⟨true, fun _ _ => [], everything⟩

/-- The items that a rule accepts. -/
def itemsAccepted (r : Rule) (v : Json) : Coverage :=
  .ofItems (((itemsOf v).filter fun p => r.accepts p.1).map Prod.snd)

/-- The items from an index on. -/
def items (keyword : String) (start : Nat) (item : Rule) : Rule :=
  .blind fun v => ((itemsOf v).drop start).flatMap fun p =>
    within (.index p.2) [.key keyword] (item.apply p.1)

/-- The first items, each by its own rule. -/
def tuple (keyword : String) (rules : List Rule) : Rule :=
  .blind fun v => ((itemsOf v).zip rules).flatMap fun p =>
    within (.index p.1.2) [.key keyword, .index p.1.2] (p.2.apply p.1.1)

/-- The first items, or all of them, count as looked at. -/
def covers (limit : Option Nat) : Rule :=
  ⟨true, fun _ _ => [], fun v =>
    let indices := (itemsOf v).map Prod.snd
    .ofItems (limit.elim indices fun n => indices.take n)⟩

/-- The keyword under which a wrong number of matching items is reported. -/
def countKeyword (count : Nat) (least most : Option Nat) : Option String :=
  match least, most with
  | none, none => if count = 0 then some "contains" else none
  | some l, none => if count < l then some "minContains" else none
  -- Without a least number one match is still asked for.
  | none, some m => if count = 0 || m < count then some "maxContains" else none
  | some l, some m =>
    if m < count then some "maxContains" else if count < l then some "minContains" else none

/-- How many items match. Those that do count as looked at. -/
def contains (item : Rule) (least most : Option Nat) : Rule :=
  ⟨true,
    fun _ v =>
      let count := ((itemsOf v).filter fun p => item.accepts p.1).length
      match v, countKeyword count least most with
      -- Values of other kinds have no items to count.
      | .arr _, some keyword => demand false keyword v .contains
      | _, _ => [],
    itemsAccepted item⟩

/-- The items that nothing has looked at. Those that the rule refuses are one fault. -/
def unevaluatedItems (other : Rule) : Rule :=
  ⟨true,
    fun seen v =>
      let covered := (seen v).items
      let wrong := (itemsOf v).filter fun p => !covered.contains p.2 && !other.accepts p.1
      demand wrong.isEmpty "unevaluatedItems" v (.unevaluatedItems (wrong.map Prod.fst)),
    itemsAccepted other⟩

/-! ### Combinations

For what has been looked at only alternatives with keywords are asked. -/

/-- What some alternatives have looked at, where that is decided for members and for items apart by
how many of them accept the value. -/
def counted (rules : List Rule) (members items : Nat → Nat → Bool) (v : Json) : Coverage :=
  let asked := rules.filter hasKeywords
  let accepting := (asked.filter fun r => r.accepts v).length
  let all := joined asked v
  ⟨if members accepting asked.length then all.names else [],
    if items accepting asked.length then all.items else []⟩

def allOf (rules : List Rule) : Rule :=
  ⟨true,
    fun _ v => rules.zipIdx.flatMap fun p => under [.key "allOf", .index p.2] (p.1.apply v),
    counted rules (· == ·) (· == ·)⟩

/-- One rule has to hold. If one does, the members that any has looked at count, and if all do, the
items. -/
def anyOf (rules : List Rule) : Rule :=
  ⟨true, fun _ v => demand (rules.any fun r => r.accepts v) "anyOf" v (.noAlternative "anyOf"),
    counted rules (fun n _ => n != 0) (· == ·)⟩

/-- Exactly one rule has to hold. If one does, all that any has looked at counts. -/
def oneOf (rules : List Rule) : Rule :=
  ⟨true,
    fun _ v =>
      match (rules.filter fun r => r.accepts v).length with
      | 0 => demand false "oneOf" v (.noAlternative "oneOf")
      | n => demand (n == 1) "oneOf" v .manyAlternatives,
    counted rules (fun n _ => n == 1) (fun n _ => n == 1)⟩

def negation (rule : Rule) (source : Json) : Rule :=
  .blind fun v => demand (!rule.accepts v) "not" v (.negated source)

/-- One of two rules, by whether a first one holds. -/
def choice (condition yes no : Rule) : Rule :=
  ⟨true,
    fun _ v =>
      if condition.accepts v then under [.key "then"] (yes.apply v)
      else under [.key "else"] (no.apply v),
    fun v =>
      -- A condition that is just `true` or `false` counts as no condition at all.
      if !condition.hasKeywords then .nothing
      else if condition.accepts v then (condition.coverage v).union (yes.coverage v)
      else no.coverage v⟩

end Rule

end DocCheck.Schema
