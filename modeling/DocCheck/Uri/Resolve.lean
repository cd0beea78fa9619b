import DocCheck.Uri

/-!
# Resolving URI references

A reference is taken relative to a base, and the result is put into a normal form: escapes that
are not needed are undone, the digits of others are upper-case, scheme and host are lower-case, and
dot segments are gone from paths that start at the root.

* `Uri.resolve` — the target of a reference;
* `Uri.withoutFragment`, `Uri.fragment?` — the two parts of a target.
-/

namespace DocCheck.Uri

/-- Why a reference has no target. -/
inductive ResolveError where
  /-- The text is no reference. -/
  | invalid (text : String) (error : ParseError)
  /-- The base has a fragment. -/
  | baseWithFragment (text base : String)
  /-- The base has no path below which anything could be. -/
  | opaqueBase (text base : String)
  deriving DecidableEq

namespace ResolveError

def message : ResolveError → String
  | invalid text e => "Invalid URI reference '" ++ text ++ "': " ++ e.message
  | baseWithFragment text base =>
    "Failed to resolve '" ++ text ++ "' against '" ++ base ++ "': base URI/IRI with fragment"
  | opaqueBase text base =>
    "Failed to resolve '" ++ text ++ "' against '" ++ base
      ++ "': when the base has a rootless path and no authority, the reference should either "
      ++ "have scheme, be empty or start with '#'"

end ResolveError

/-! ### Normal form -/

/-- The value of a hexadecimal digit. -/
def hexValue (c : Char) : Nat :=
  if c ≤ '9' then c.toNat - 48 else if 'a' ≤ c then c.toNat - 87 else c.toNat - 55

/-- Undoes escapes of characters that stand for themselves, and writes others in upper case. -/
def normalizeEscapes : List Char → List Char
  | '%' :: a :: b :: rest =>
    let c := Char.ofNat (16 * hexValue a + hexValue b)
    if isUnreserved c then c :: normalizeEscapes rest
    else '%' :: a.toUpper :: b.toUpper :: normalizeEscapes rest
  | c :: rest => c :: normalizeEscapes rest
  | [] => []

/-- Writes letters in lower case, apart from the digits of escapes. -/
def lowerCase : List Char → List Char
  | '%' :: a :: b :: rest => '%' :: a :: b :: lowerCase rest
  | c :: rest => c.toLower :: lowerCase rest
  | [] => []

/-- The normal form of an authority: the host in lower case, and no port that is empty. -/
def normalizeAuthority (cs : List Char) : List Char :=
  let cs := normalizeEscapes cs
  let user := if cs.contains '@' then cs.takeWhile (· != '@') ++ ['@'] else []
  let host := lowerCase (cs.drop user.length)
  user ++ (if host.getLast? == some ':' then host.dropLast else host)

/-- Removes dot segments from the segments behind the first slash; those kept are in reverse. -/
def withoutDots : List (List Char) → List (List Char) → List (List Char)
  | kept, [] => kept.reverse
  | kept, [['.']] => ([] :: kept).reverse
  | kept, [['.', '.']] => ([] :: kept.drop 1).reverse
  | kept, ['.'] :: rest => withoutDots kept rest
  | kept, ['.', '.'] :: rest => withoutDots (kept.drop 1) rest
  | kept, s :: rest => withoutDots (s :: kept) rest

/-- Removes dot segments from a path that starts at the root; other paths stay. -/
def removeDotSegments (path : List Char) : List Char :=
  match path with
  | '/' :: rest => (withoutDots [] (splitAt '/' rest)).flatMap fun s => '/' :: s
  | _ => path

/-- The normal form of a reference. -/
def Reference.normalize (r : Reference) : Reference :=
  let path := normalizeEscapes r.path
  { scheme := r.scheme.map fun s => s.map Char.toLower
    authority := r.authority.map normalizeAuthority
    path := if r.scheme.isSome then removeDotSegments path else path
    query := r.query.map normalizeEscapes
    fragment := r.fragment.map normalizeEscapes }

/-! ### Resolving -/

/-- A path relative to the path of a base. -/
def mergePaths (base : Reference) (path : List Char) : List Char :=
  if base.authority.isSome && base.path.isEmpty then '/' :: path
  else (base.path.reverse.dropWhile (· != '/')).reverse ++ path

/-- The target of a reference, before it is put into normal form. -/
def Reference.against (r base : Reference) : Reference :=
  if r.scheme.isSome then r
  else if r.authority.isSome then { r with scheme := base.scheme }
  else if r.path.isEmpty then
    { r with
      scheme := base.scheme
      authority := base.authority
      path := base.path
      query := if r.query.isSome then r.query else base.query }
  else
    { r with
      scheme := base.scheme
      authority := base.authority
      path := if r.path.head? == some '/' then r.path else mergePaths base r.path }

/-- Whether nothing can be below a base. -/
def Reference.isOpaque (base : Reference) : Bool :=
  base.authority.isNone && base.path.head? != some '/'

/-- The base that a text without scheme is relative to. -/
def rootBase : String := "json-schema:///"

def withoutFragment (uri : String) : String := String.ofList (uri.toList.takeWhile (· != '#'))

def fragment? (uri : String) : Option (List Char) :=
  match uri.toList.dropWhile (· != '#') with
  | _ :: cs => some cs
  | [] => none

/-- Whether one list ends with another. -/
def endsWith (cs tail : List Char) : Bool := cs.drop (cs.length - tail.length) == tail

/-- The target of a reference. A fragment with which the base ends already names the base. -/
def resolve (base text : String) : Except ResolveError String :=
  if text.toList.head? == some '#' && endsWith base.toList text.toList then .ok base
  else
    match Reference.parse false text.toList with
    | .error e => .error (.invalid text e)
    | .ok r =>
      match Reference.parse false base.toList with
      | .error e => .error (.invalid base e)
      | .ok b =>
        let goesOn := r.authority.isSome || !r.path.isEmpty || r.query.isSome
        if b.fragment.isSome then .error (.baseWithFragment text base)
        else if b.isOpaque && r.scheme.isNone && goesOn then .error (.opaqueBase text base)
        else .ok (String.ofList (r.against b).normalize.toChars)

end DocCheck.Uri
