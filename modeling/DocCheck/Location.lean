import DocCheck.Json.Pointer
import DocCheck.Json.Printer

/-!
# Locations

A location says in which part of a document something was found, in a form for readers: `.key` for
a member whose key is an identifier, `["key"]` for any other member, `[n]` for an item. The root
has the empty location.

* `Location.isIdentifier` — keys that need no quotes;
* `Location.ofPointer` — the location that a pointer leads to in a document.
-/

namespace DocCheck.Location

/-- Whether a character may start an identifier. -/
def isIdentifierStart (c : Char) : Bool :=
  ('a' ≤ c && c ≤ 'z') || ('A' ≤ c && c ≤ 'Z') || c == '_' || c == '$'

/-- Whether a key is an identifier, and so may follow a dot without quotes. -/
def isIdentifier : List Char → Bool
  | [] => false
  | c :: cs => isIdentifierStart c && cs.all fun d => isIdentifierStart d || ('0' ≤ d && d ≤ '9')

/-- The location of a member below the root. -/
def member (key : List Char) : List Char :=
  if isIdentifier key then '.' :: key else '[' :: (Json.quoteChars key ++ [']'])

/-- The location of an item below the root. -/
def item (index : List Char) : List Char := '[' :: (index ++ [']'])

/-- The location of the rest of a path. The value at the start of the rest tells whether the next
step is an index or a key; where the path has left the document every step is a key. -/
def walk : Option Json → List (List Char) → List Char
  | _, [] => []
  -- The text of the step is shown as it is, even where it is no index of the array.
  | some (.arr xs), s :: rest =>
    item s ++ walk ((Json.Pointer.toIndex? s).bind fun i => xs[i]?) rest
  | some v, s :: rest => member s ++ walk (v.get? (String.ofList s)) rest
  | none, s :: rest => member s ++ walk none rest

/-- The location that a pointer leads to in a document. -/
def ofPointer (pointer : String) (document : Json) : String :=
  String.ofList (walk (some document) (Json.Pointer.segments pointer))

end DocCheck.Location
