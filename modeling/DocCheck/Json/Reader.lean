import DocCheck.Json.Scalar

/-!
# Values from JSON text

`Json.read` reads a whole text as one JSON value. Blanks may stand around every part, nothing but
blanks may follow the value, and arrays and objects may be nested `Json.deepest` deep. Of members
with one key the last one stays.
-/

namespace DocCheck

namespace Json

open JsonScalar (readNumber readString)

/-- How deep arrays and objects may be nested. -/
def deepest : Nat := 127

/-- Reads the rest of a literal name. -/
def readName (value : Json) : List Char → Cursor → Except JsonError (Json × Cursor)
  | [], c => .ok (value, c)
  | ch :: rest, c =>
    match c.peek? with
    | none => c.fail .endInValue
    | some d => if d = ch then readName value rest c.skip else c.failAhead .nameExpected

mutual

/-- Reads one value; `depth` more levels of nesting are allowed. -/
def readValue : Nat → Nat → Cursor → Except JsonError (Json × Cursor)
  | 0, _, c => c.failAhead .tooDeep
  | fuel + 1, depth, c =>
    let c := c.skipGaps
    match c.peek? with
    | none => c.failAhead .endInValue
    | some 'n' => readName .null "ull".toList c.skip
    | some 't' => readName (.bool true) "rue".toList c.skip
    | some 'f' => readName (.bool false) "alse".toList c.skip
    | some '-' => (readNumber true c.skip).map fun (n, c) => (.num n, c)
    | some '"' => (readString (c.rest.length + 1) [] c.skip).map fun (s, c) => (.str s, c)
    | some '[' =>
      if depth = 0 then c.failAhead .tooDeep else readItems fuel (depth - 1) [] c.skip
    | some '{' =>
      if depth = 0 then c.failAhead .tooDeep else readMembers fuel (depth - 1) [] c.skip
    | some ch =>
      if '0' ≤ ch && ch ≤ '9' then (readNumber false c).map fun (n, c) => (.num n, c)
      else c.failAhead .valueExpected
  termination_by structural fuel => fuel

/-- Reads the items of an array, those before in reverse, up to its closing bracket. -/
def readItems : Nat → Nat → List Json → Cursor → Except JsonError (Json × Cursor)
  | 0, _, _, c => c.failAhead .tooDeep
  | fuel + 1, depth, before, c =>
    let c := c.skipGaps
    match c.peek?, before with
    | none, _ => c.failAhead .endInList
    -- Behind a comma the bracket is refused below.
    | some ']', _ => .ok (.arr before.reverse, c.skip)
    | some ',', _ :: _ =>
      let c := c.skip.skipGaps
      match c.peek? with
      | none => c.failAhead .endInValue
      | some ']' => c.failAhead .trailingComma
      | some _ => do
        let (v, c) ← readValue fuel depth c
        readItems fuel depth (v :: before) c
    | some _, [] => do
      let (v, c) ← readValue fuel depth c
      readItems fuel depth [v] c
    | some _, _ :: _ => c.failAhead .itemEndExpected
  termination_by structural fuel => fuel

/-- Reads the members of an object, those before in reverse, up to its closing brace. -/
def readMembers : Nat → Nat → List (String × Json) → Cursor →
    Except JsonError (Json × Cursor)
  | 0, _, _, c => c.failAhead .tooDeep
  | fuel + 1, depth, before, c =>
    let c := c.skipGaps
    match c.peek?, before with
    | none, _ => c.failAhead .endInObject
    | some '}', _ => .ok (.ofMembers before.reverse, c.skip)
    | some ',', _ :: _ =>
      let c := c.skip.skipGaps
      match c.peek? with
      | none => c.failAhead .endInValue
      | some '}' => c.failAhead .trailingComma
      | some _ => do
        let (m, c) ← readMember fuel depth c
        readMembers fuel depth (m :: before) c
    | some _, [] => do
      let (m, c) ← readMember fuel depth c
      readMembers fuel depth [m] c
    | some _, _ :: _ => c.failAhead .memberEndExpected
  termination_by structural fuel => fuel

/-- Reads a key, a colon and a value. -/
def readMember : Nat → Nat → Cursor → Except JsonError ((String × Json) × Cursor)
  | 0, _, c => c.failAhead .tooDeep
  | fuel + 1, depth, c =>
    match c.peek? with
    | some '"' => do
      let (k, c) ← readString (c.rest.length + 1) [] c.skip
      let c := c.skipGaps
      match c.peek? with
      | some ':' =>
        let (v, c) ← readValue fuel depth c.skip
        .ok ((k, v), c)
      | some _ => c.failAhead .colonExpected
      | none => c.failAhead .endInObject
    | _ => c.failAhead .keyMustBeString
  termination_by structural fuel => fuel

end

/-- Reads a whole text as one value. -/
def read (text : String) : Except JsonError Json := do
  let cs := text.toList
  let (v, c) ← readValue (2 * cs.length + 3) deepest (.ofList cs)
  let c := c.skipGaps
  match c.peek? with
  | none => .ok v
  | some _ => c.failAhead .trailingCharacters

end Json

end DocCheck
