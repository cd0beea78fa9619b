import DocCheck.Text.Utf8

/-!
# URI references

The parts of a URI reference, by the general syntax of URIs. A wide reference may also hold
characters beyond ASCII.

* `Uri.Reference` — scheme, authority, path, query and fragment;
* `Uri.Reference.parse` — the parts of a text;
* `Uri.Reference.toChars` — the text of the parts.
-/

namespace DocCheck.Uri

/-- What is wrong with a text that is no URI reference. -/
inductive Fault where
  /-- A character that may not stand where it does. -/
  | unexpectedCharacter
  /-- A percent sign without two hexadecimal digits. -/
  | invalidOctet
  /-- Brackets that hold no address. -/
  | invalidAddress
  deriving DecidableEq

/-- A fault and how many bytes stand before it. -/
structure ParseError where
  /-- What is wrong. -/
  fault : Fault
  /-- How many bytes stand before it. -/
  index : Nat
  deriving DecidableEq

namespace ParseError

/-- The wording of an error. -/
def message (e : ParseError) : String :=
  let what :=
    match e.fault with
    | .unexpectedCharacter => "unexpected character"
    | .invalidOctet => "invalid percent-encoded octet"
    | .invalidAddress => "invalid IPv6 address"
  what ++ " at index " ++ toString e.index

end ParseError

/-! ### Characters -/

/-- Whether a character is a hexadecimal digit. -/
def isHex (c : Char) : Bool :=
  ('0' ≤ c && c ≤ '9') || ('a' ≤ c && c ≤ 'f') || ('A' ≤ c && c ≤ 'F')

/-- Whether a character stands for itself in every part. -/
def isUnreserved (c : Char) : Bool :=
  c.isAlphanum || c == '-' || c == '.' || c == '_' || c == '~'

/-- Whether a character may divide parts of a part. -/
def isSubDelimiter (c : Char) : Bool := "!$&'()*+,;=".toList.contains c

/-- Whether a character beyond ASCII may stand in a wide reference. -/
def isWide (c : Char) : Bool :=
  let n := c.toNat
  (0xA0 ≤ n && n ≤ 0xD7FF) || (0xF900 ≤ n && n ≤ 0xFDCF) || (0xFDF0 ≤ n && n ≤ 0xFFEF)
    || (0x10000 ≤ n && n < 0xE0000 && n % 0x10000 < 0xFFFE) || (0xE1000 ≤ n && n < 0xEFFFE)

/-- Characters of a registered name. -/
def isNameChar (wide : Bool) (c : Char) : Bool :=
  isUnreserved c || isSubDelimiter c || (wide && isWide c)

/-- Characters of the part before the host. -/
def isUserChar (wide : Bool) (c : Char) : Bool := isNameChar wide c || c == ':'

/-- Characters of a path. -/
def isPathChar (wide : Bool) (c : Char) : Bool :=
  isNameChar wide c || c == ':' || c == '@' || c == '/'

/-- Whether a character has no meaning of its own; such a one may stand in a wide query. -/
def isPrivate (c : Char) : Bool :=
  let n := c.toNat
  (0xE000 ≤ n && n ≤ 0xF8FF) || (0xF0000 ≤ n && n ≤ 0x10FFFF && n % 0x10000 < 0xFFFE)

/-- Characters of a fragment. -/
def isFragmentChar (wide : Bool) (c : Char) : Bool := isPathChar wide c || c == '?'

/-- Characters of a query. -/
def isQueryChar (wide : Bool) (c : Char) : Bool :=
  isFragmentChar wide c || (wide && isPrivate c)

/-- Characters of a scheme. -/
def isSchemeChar (c : Char) : Bool := c.isAlphanum || c == '+' || c == '-' || c == '.'

/-! ### Addresses -/

/-- Whether digits are a number up to 255 without leading zeros. -/
def isOctet (cs : List Char) : Bool :=
  !cs.isEmpty && cs.length ≤ 3 && cs.all (fun c => '0' ≤ c && c ≤ '9')
    && (cs.length == 1 || cs.head? != some '0')
    && cs.foldl (fun n c => 10 * n + (c.toNat - 48)) 0 ≤ 255

/-- The parts of a text between a dividing character. -/
def splitAt (divider : Char) : List Char → List (List Char)
  | [] => [[]]
  | c :: cs =>
    if c = divider then [] :: splitAt divider cs
    else
      match splitAt divider cs with
      | s :: rest => (c :: s) :: rest
      | [] => [[c]]

/-- Whether a text is an address of four numbers. -/
def isIPv4 (cs : List Char) : Bool :=
  let parts := splitAt '.' cs
  parts.length == 4 && parts.all isOctet

/-- How many groups of two bytes a run of groups has; the last one may be an address of four
numbers. -/
def groupCount? (last : Bool) (cs : List Char) : Option Nat :=
  if cs.isEmpty then some 0
  else
    let parts := splitAt ':' cs
    let isGroup (p : List Char) := !p.isEmpty && p.length ≤ 4 && p.all isHex
    match parts.getLast? with
    | none => none
    | some l =>
      if !(parts.dropLast.all isGroup) then none
      else if isGroup l then some parts.length
      else if last && isIPv4 l then some (parts.length + 1)
      else none

/-- Splits a text at the first pair of colons. -/
def splitAtPair : List Char → Option (List Char × List Char)
  | ':' :: ':' :: rest => some ([], rest)
  | c :: rest => (splitAtPair rest).map fun (a, b) => (c :: a, b)
  | [] => none

/-- Whether a text is an address of eight groups, of which one run of zeros may be left out. -/
def isIPv6 (cs : List Char) : Bool :=
  match splitAtPair cs with
  | none => groupCount? true cs == some 8
  | some (front, back) =>
    match groupCount? false front, groupCount? true back with
    | some a, some b => a + b ≤ 7
    | _, _ => false

/-! ### References -/

/-- The parts of a reference. -/
structure Reference where
  /-- The scheme, without its colon. -/
  scheme : Option (List Char)
  /-- The authority, without its slashes. -/
  authority : Option (List Char)
  /-- The path. -/
  path : List Char
  /-- The query, without its question mark. -/
  query : Option (List Char)
  /-- The fragment, without its hash. -/
  fragment : Option (List Char)
  deriving DecidableEq

/-- Text that is being read and how many bytes stand before it. -/
structure Rest where
  /-- The characters that follow. -/
  chars : List Char
  /-- How many bytes stand before them. -/
  index : Nat

namespace Rest

/-- Fails `n` bytes ahead. -/
def fail {α : Type} (r : Rest) (n : Nat) (fault : Fault) : Except ParseError α :=
  .error ⟨fault, r.index + n⟩

/-- Passes over one character of ASCII. -/
def skip (n : Nat) (r : Rest) : Rest := ⟨r.chars.drop n, r.index + n⟩

/-- Reads allowed characters and percent signs with their digits; those before are in reverse. -/
def readFrom (allowed : Char → Bool) : Nat → List Char → Nat → List Char →
    Except ParseError (List Char × Rest)
  | 0, cs, index, before => .ok (before.reverse, ⟨cs, index⟩)
  | _ + 1, [], index, before => .ok (before.reverse, ⟨[], index⟩)
  | fuel + 1, c :: cs, index, before =>
    if c = '%' then
      match cs with
      | a :: b :: rest =>
        if isHex a && isHex b then readFrom allowed fuel rest (index + 3) (b :: a :: c :: before)
        else .error ⟨.invalidOctet, index⟩
      | _ => .error ⟨.invalidOctet, index⟩
    else if allowed c then readFrom allowed fuel cs (index + c.utf8Size) (c :: before)
    else .ok (before.reverse, ⟨c :: cs, index⟩)

/-- Reads allowed characters and percent signs with their digits. -/
def read (allowed : Char → Bool) (r : Rest) : Except ParseError (List Char × Rest) :=
  readFrom allowed (r.chars.length + 1) r.chars r.index []

end Rest

/-! ### Addresses in brackets -/

/-- Reads a number up to 255; a zero is read by itself. -/
def readOctet? (r : Rest) : Option Rest :=
  match (r.chars.take 3).takeWhile Char.isDigit with
  | [] => none
  | '0' :: _ => some (r.skip 1)
  | digits =>
    if digits.foldl (fun n c => 10 * n + (c.toNat - 48)) 0 ≤ 255 then some (r.skip digits.length)
    else none

/-- Reads so many numbers, each but the first behind a dot. -/
def readOctets? : Nat → Rest → Option Rest
  | 0, r => some r
  | n + 1, r =>
    match readOctet? r with
    | none => none
    | some r =>
      if n = 0 then some r
      else if r.chars.head? == some '.' then readOctets? n (r.skip 1)
      else none

/-- What comes next in an address of groups. -/
inductive AddressPart where
  /-- A group, perhaps behind a colon. -/
  | group (colon : Bool)
  /-- Two colons. -/
  | gap
  /-- What may be an address of four numbers, perhaps behind a colon. -/
  | numbers (colon : Bool)
  /-- A colon with no part behind it. -/
  | colon

/-- The next part of an address and what is behind it; the numbers are not passed. -/
def nextPart (r : Rest) : Option AddressPart × Rest :=
  let colon := r.chars.head? == some ':'
  let inner := if colon then r.skip 1 else r
  let digits := (inner.chars.take 4).takeWhile isHex
  if digits.isEmpty then
    if !colon then (none, r)
    else if inner.chars.head? == some ':' then (some .gap, inner.skip 1)
    else (some .colon, inner)
  else if digits.length < 4 && (inner.chars.drop digits.length).head? == some '.' then
    (some (.numbers colon), inner)
  else (some (.group colon), inner.skip digits.length)

/-- Reads the parts of an address: whether they make up one, and what is behind them. So many groups
stand before, and the gap, if there was one, behind so many. -/
def readParts : Nat → Nat → Option Nat → Rest → Bool × Rest
  | 0, groups, gap, r => (isWhole groups gap, r)
  | fuel + 1, groups, gap, r =>
    if groups = 8 then (isWhole groups gap, r)
    else
      match nextPart r with
      | (none, r) => (isWhole groups gap, r)
      | (some .gap, r) =>
        if gap.isSome then (false, r) else readParts fuel groups (some groups) r
      | (some (.group colon), r) =>
        if colon == (groups == 0 || gap == some groups) then (false, r)
        else readParts fuel (groups + 1) gap r
      | (some (.numbers colon), r) =>
        if 6 < groups || colon == (gap == some groups) then (false, r)
        else
          match readOctets? 4 r with
          | some r => (isWhole (groups + 2) gap, r)
          | none => (false, r)
      | (some .colon, r) => (false, r)
where
  /-- Whether so many groups are an address: eight without a gap, or fewer with one. -/
  isWhole (groups : Nat) (gap : Option Nat) : Bool :=
    if gap.isSome then groups != 8 else groups == 8

/-- Reads an address of a later version: a `v`, its number, a dot and the address. -/
def readFuture (r : Rest) : Except ParseError Rest := do
  if !(r.chars.head? == some 'v' || r.chars.head? == some 'V') then
    r.fail 0 .unexpectedCharacter
  let version := (r.chars.drop 1).takeWhile isHex
  let r := r.skip (1 + version.length)
  if version.isEmpty || r.chars.head? != some '.' then r.fail 0 .unexpectedCharacter
  let r := r.skip 1
  let address := r.chars.takeWhile fun c => isNameChar false c || c == ':'
  if address.isEmpty then r.fail 0 .unexpectedCharacter
  .ok (r.skip address.length)

/-- Reads an address in brackets, if one comes next. What does not even begin like an address of
groups should be one of a later version. -/
def readBrackets (r : Rest) : Except ParseError (Option (List Char) × Rest) :=
  if r.chars.head? != some '[' then .ok (none, r)
  else do
    let start := r.skip 1
    let (whole, behind) := readParts 9 0 none start
    let behind ←
      if whole then .ok behind
      else if behind.index == start.index then readFuture start
      else start.fail 0 .invalidAddress
    if behind.chars.head? != some ']' then behind.fail 0 .unexpectedCharacter
    let behind := behind.skip 1
    .ok (some (r.chars.take (behind.index - r.index)), behind)

/-- Reads a port, its colon included. -/
def readPort (r : Rest) : List Char × Rest :=
  match r.chars with
  | ':' :: cs =>
    let digits := cs.takeWhile Char.isDigit
    (':' :: digits, r.skip (1 + digits.length))
  | _ => ([], r)

/-- Reads a host that follows an at sign, and its port. -/
def readHost (wide : Bool) (r : Rest) : Except ParseError (List Char × Rest) := do
  let (address, r) ← readBrackets r
  let (host, r) ←
    match address with
    | some a => .ok (a, r)
    | none => r.read (isNameChar wide)
  let (port, r) := readPort r
  .ok (host ++ port, r)

/-- Reads an authority. -/
def readAuthority (wide : Bool) (start : Rest) : Except ParseError (List Char × Rest) := do
  let (front, r) ← start.read (isUserChar wide)
  if r.chars.head? == some '@' then
    let (host, r) ← readHost wide (r.skip 1)
    .ok (front ++ '@' :: host, r)
  else if front.isEmpty then readHost wide r
  else
    -- No at sign, so what was read is a host, and perhaps a port behind a colon.
    match splitAt ':' front with
    | [host, port] =>
      match port.find? fun c => !c.isDigit with
      | none => .ok (front, r)
      | some _ =>
        let good := port.takeWhile Char.isDigit
        start.fail (Text.utf8Length host + 1 + good.length) .unexpectedCharacter
    | [_] => .ok (front, r)
    | parts =>
      let last := parts.getLast?.getD []
      start.fail (Text.utf8Length front - Text.utf8Length last - 1) .unexpectedCharacter

/-- Reads a query or a fragment behind its mark, if there is one. -/
def readMarked (mark : Char) (allowed : Char → Bool) (r : Rest) :
    Except ParseError (Option (List Char) × Rest) :=
  if r.chars.head? == some mark then do
    let (cs, r) ← (r.skip 1).read allowed
    .ok (some cs, r)
  else .ok (none, r)

/-- Reads what follows a path, up to the end. -/
def readTail (wide : Bool) (scheme authority : Option (List Char)) (path : List Char) (r : Rest) :
    Except ParseError Reference := do
  let (query, r) ← readMarked '?' (isQueryChar wide) r
  let (fragment, r) ← readMarked '#' (isFragmentChar wide) r
  if r.chars.isEmpty then .ok ⟨scheme, authority, path, query, fragment⟩
  else r.fail 0 .unexpectedCharacter

/-- Reads what follows a scheme. -/
def readHierarchy (wide : Bool) (scheme : Option (List Char)) (r : Rest) :
    Except ParseError Reference := do
  match r.chars with
  | '/' :: '/' :: _ =>
    let (authority, r) ← readAuthority wide (r.skip 2)
    let (path, behind) ← r.read (isPathChar wide)
    if path.head?.any (· != '/') then r.fail 0 .unexpectedCharacter
    readTail wide scheme (some authority) path behind
  | _ =>
    let (path, r) ← r.read (isPathChar wide)
    readTail wide scheme none path r

/-- The parts of a text. The first part of a path without scheme must not hold a colon. -/
def Reference.parse (wide : Bool) (text : List Char) : Except ParseError Reference := do
  let start : Rest := ⟨text, 0⟩
  let front := text.takeWhile isSchemeChar
  let behind := start.skip front.length
  if behind.chars.head? == some ':' then
    if front.head?.any Char.isAlpha then readHierarchy wide (some front) (behind.skip 1)
    else start.fail 0 .unexpectedCharacter
  else if front.isEmpty then
    match text with
    | '/' :: _ => readHierarchy wide none start
    | _ => readRelative start
  else readRelative start
where
  /-- Reads a path without scheme that does not start with a slash. -/
  readRelative (start : Rest) : Except ParseError Reference := do
    let (first, r) ← start.read fun c => isNameChar wide c || c == '@'
    if r.chars.head? == some ':' then
      if first.isEmpty then start.fail 0 .unexpectedCharacter else r.fail 0 .unexpectedCharacter
    let (more, r) ← r.read (isPathChar wide)
    readTail wide none none (first ++ more) r

/-- The text of the parts. A path with two slashes in front is kept apart from an authority. -/
def Reference.toChars (r : Reference) : List Char :=
  let scheme := (r.scheme.map (· ++ [':'])).getD []
  let authority := (r.authority.map ('/' :: '/' :: ·)).getD []
  let guarded := r.authority.isNone && r.path.take 2 == ['/', '/']
  let path := if guarded then '/' :: '.' :: r.path else r.path
  let query := (r.query.map ('?' :: ·)).getD []
  let fragment := (r.fragment.map ('#' :: ·)).getD []
  scheme ++ authority ++ path ++ query ++ fragment

end DocCheck.Uri
