import DocCheck.Schema.Node

/-!
# Keywords without subschemas

What a keyword without subschemas asks, by its value and the draft. Some keywords look at others
beside them, which is why each is read with all members of its schema.

* `Keyword.checkParts` — the parts that such a keyword brings.
-/

namespace DocCheck.Schema.Keyword

/-- A keyword whose value is not what it needs. -/
def malformed (value : Json) (cause : Cause) : List Node := [.broken (.malformed value cause)]

/-- A keyword whose value has a wrong type. -/
def mistyped (value : Json) (types : List TypeName) : List Node :=
  malformed value (.notOfType types)

/-- The values of `type` as they are listed in messages. -/
def typeNames : List Json := TypeName.all.map fun t => .str t.name

/-- A single name under `type`. -/
def typePart (d : Draft) : Json → List Node
  | .str name =>
    match TypeName.ofName? name with
    | some t => [.check "type" (.type [t] (d == .draft4))]
    | none => malformed (.str name) .unknownType
  | v => mistyped v [.string]

/-- The types of a list, or the first item that names none. -/
def listedTypes : List Json → Except (List Node) (List TypeName)
  | [] => .ok []
  | .str name :: rest =>
    match TypeName.ofName? name with
    | some t => (listedTypes rest).map (t :: ·)
    | none => .error (malformed (.str name) (.notListed typeNames))
  | v :: _ => .error (mistyped v [.string])

/-- The keyword `type`. -/
def typeParts (d : Draft) : Json → List Node
  | .str name => typePart d (.str name)
  -- A list of one type is read, and reported, as that type.
  | .arr [v] => typePart d v
  | .arr vs =>
    match listedTypes vs with
    | .ok ts => [.check "type" (.type ts (d == .draft4))]
    | .error parts => parts
  | v => mistyped v [.array, .string]

/-- The names in a list, or the first item that is none. -/
def nameList : List Json → Except (List Node) (List String)
  | [] => .ok []
  | .str name :: rest => (nameList rest).map (name :: ·)
  | v :: _ => .error (mistyped v [.string])

/-- The keyword `required`. -/
def requiredParts : Json → List Node
  | .arr vs =>
    match nameList vs with
    | .ok names => [.check "required" (.required names)]
    | .error parts => parts
  | v => mistyped v [.array]

/-- One entry of `dependentRequired`. -/
def dependentNames (name : String) : Json → List Node
  | .arr vs =>
    if Check.allDistinct vs then
      match nameList vs with
      | .ok names => [.check "dependentRequired" (.requiredWith name names)]
      | .error parts => parts
    else malformed (.arr vs) .repeatedItems
  | v => mistyped v [.array]

/-- The keyword `dependentRequired`. -/
def dependentRequiredParts : Json → List Node
  | .obj ms => ms.flatMap fun m => dependentNames m.1 m.2
  | v => mistyped v [.object]

/-- The greatest count that is told apart from greater ones. -/
def greatestCount : Nat := Nat.pow 2 64 - 1

/-- A count that may not be negative. A number without fraction may be written with a point if
`pointed` says so; a negative one with a point counts as zero. -/
def count (pointed : Bool) (value : Json) : Except (List Node) Nat :=
  match value with
  | .num (.int n) =>
    if 0 ≤ n then .ok n.toNat
    else .error (malformed value (.tooSmall (.int 0) false))
  | .num (.float x) =>
    if pointed && x.isIntegral then .ok (min x.truncate.toNat greatestCount)
    else .error (mistyped value [.integer])
  | v => .error (mistyped v [.integer])

/-- A limit of a count. From draft 6 on a negative one counts as zero. -/
def countLimit (d : Draft) (value : Json) : Except (List Node) Nat :=
  match d.atLeast .draft6, value with
  | true, .num (.int n) => .ok n.toNat
  | pointed, v => count pointed v

/-- A keyword that limits a count. -/
def countParts (d : Draft) (keyword : String) (check : Nat → Check) (value : Json) : List Node :=
  match countLimit d value with
  | .ok n => [.check keyword (check n)]
  | .error parts => parts

/-- A keyword that limits a number. -/
def limitParts (keyword : String) (check : Number → Check) : Json → List Node
  | .num n => [.check keyword (check n)]
  | v => mistyped v [.number]

/-- A keyword that limits a number; in draft 4 another one beside it says whether the limit itself
is excluded. -/
def inclusiveParts (d : Draft) (ms : List (String × Json)) (keyword exclusive : String)
    (check : Number → Bool → Check) (value : Json) : List Node :=
  if d == .draft4 && Json.lookup exclusive ms == some (.bool true) then
    limitParts exclusive (check · true) value
  else limitParts keyword (check · false) value

/-- The keyword `pattern`. -/
def patternParts : Json → List Node
  | .str source =>
    match Pattern.read source with
    | some p => [.check "pattern" (.pattern p source)]
    | none => malformed (.str source) (.format Format.regex.name)
  | v => mistyped v [.string]

/-- The keyword `format`. -/
def formatParts (d : Draft) (value : Json) : List Node :=
  if d.atLeast .draft2019 then []
  else
    match value with
    | .str name => ((Format.ofName? d name).toList).map fun f => .check "format" (.format f)
    | v => mistyped v [.string]

/-- The keyword `uniqueItems`. -/
def uniqueParts : Json → List Node
  | .bool true => [.check "uniqueItems" .distinct]
  | .bool false => []
  | v => mistyped v [.boolean]

/-- The keyword `contentMediaType`. -/
def mediaTypeParts (ms : List (String × Json)) : Json → List Node
  | .str name =>
    if name != Content.json then []
    else
      match Json.lookup "contentEncoding" ms with
      | none => [.check "contentMediaType" .json]
      | some (.str encoding) =>
        if encoding == Content.base64 then [.check "contentMediaType" .encodedJson] else []
      | some v => mistyped v [.string]
  | v => mistyped v [.string]

/-- The keyword `contentEncoding`, unless it is read with the media type. -/
def encodingParts (ms : List (String × Json)) (value : Json) : List Node :=
  if (Json.lookup "contentMediaType" ms).isSome then []
  else
    match value with
    | .str name => if name == Content.base64 then [.check "contentEncoding" .encoded] else []
    | v => mistyped v [.string]

/-- The drafts that assert the content of strings. -/
def assertsContent (d : Draft) : Bool := d == .draft6 || d == .draft7

/-- The parts that a keyword without subschemas brings; nothing for any other keyword. -/
def checkParts (d : Draft) (ms : List (String × Json)) (keyword : String) (value : Json) :
    Option (List Node) :=
  match keyword with
  | "type" => some (typeParts d value)
  | "required" => some (requiredParts value)
  | "enum" =>
    match value with
    | .arr options => some [.check "enum" (.listed options)]
    | v => some (mistyped v [.array])
  | "const" => if d.atLeast .draft6 then some [.check "const" (.equal value)] else none
  | "minimum" => some (inclusiveParts d ms "minimum" "exclusiveMinimum" .atLeast value)
  | "maximum" => some (inclusiveParts d ms "maximum" "exclusiveMaximum" .atMost value)
  | "exclusiveMinimum" =>
    if d.atLeast .draft6 then some (limitParts "exclusiveMinimum" (.atLeast · true) value) else none
  | "exclusiveMaximum" =>
    if d.atLeast .draft6 then some (limitParts "exclusiveMaximum" (.atMost · true) value) else none
  | "multipleOf" => some (limitParts "multipleOf" (fun n => .multiple n.toBinary64) value)
  | "minLength" => some (countParts d "minLength" (.least .characters) value)
  | "maxLength" => some (countParts d "maxLength" (.most .characters) value)
  | "minItems" => some (countParts d "minItems" (.least .items) value)
  | "maxItems" => some (countParts d "maxItems" (.most .items) value)
  | "minProperties" => some (countParts d "minProperties" (.least .members) value)
  | "maxProperties" => some (countParts d "maxProperties" (.most .members) value)
  | "pattern" => some (patternParts value)
  | "format" => some (formatParts d value)
  | "uniqueItems" => some (uniqueParts value)
  | "dependentRequired" =>
    if d.atLeast .draft2019 then some (dependentRequiredParts value) else none
  | "contentMediaType" => if assertsContent d then some (mediaTypeParts ms value) else none
  | "contentEncoding" => if assertsContent d then some (encodingParts ms value) else none
  | _ => none

end DocCheck.Schema.Keyword
