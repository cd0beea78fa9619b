import DocCheck.Yaml.Token

/-!
# Anchors, tags and directives

Tokens made of names: anchors and aliases, tags, and the directives that may stand before a
document. A tag is `!<name>`, or a handle with a suffix; the handle is `!`, `!!` or `!word!`. In
names of tags a character may be written as its bytes behind percent signs. The bytes need not be a
character as long as their number is right, and the byte zero ends a name.
-/

namespace DocCheck.Yaml

namespace Source

/-- Reads a run of name characters. -/
def name (s : Source) : List Char × Source := s.span fun c => isNameChar (some c)

/-- Reads an anchor or an alias, its sign included. -/
def anchorName (context : Context) (s : Source) : Except SyntaxError (String × Source) :=
  let (cs, rest) := (s.advance 1).name
  let closed :=
    isBlankOrEnd rest.peek || isOneOf ['?', ':', ',', ']', '}', '%', '@', '\x60'] rest.peek
  if cs.isEmpty || !closed then .error (.within context s.mark .badAnchor rest.mark)
  else .ok (String.ofList cs, rest)

/-! ### Names of tags -/

/-- The value of a hexadecimal digit. -/
def hexValue? (c : Char) : Option Nat :=
  if '0' ≤ c && c ≤ '9' then some (c.toNat - 48)
  else if 'a' ≤ c && c ≤ 'f' then some (c.toNat - 87)
  else if 'A' ≤ c && c ≤ 'F' then some (c.toNat - 55)
  else none

/-- The byte that a percent sign and two digits stand for. -/
def percentOctet? (s : Source) : Option Nat :=
  match s.rest with
  | '%' :: a :: b :: _ =>
    match hexValue? a, hexValue? b with
    | some x, some y => some (16 * x + y)
    | _, _ => none
  | _ => none

/-- How many bytes a character takes whose first byte this is. -/
def octetCount? (octet : Nat) : Option Nat :=
  if octet < 0x80 then some 1
  else if octet / 0x20 == 6 then some 2
  else if octet / 0x10 == 14 then some 3
  else if octet / 0x08 == 30 then some 4
  else none

/-- Reads `n` more bytes of a character; those before are in reverse. -/
def furtherOctets (context : Context) (start : Mark) :
    Nat → TagName → Source → Except SyntaxError (TagName × Source)
  | 0, before, s => .ok (before.reverse, s)
  | n + 1, before, s =>
    match s.percentOctet? with
    | none => .error (.within context start .badTagEscape s.mark)
    | some o =>
      if o / 0x40 == 2 then furtherOctets context start n (.ofNat o :: before) (s.advance 3)
      else .error (.within context start .badTrailingOctet s.mark)

/-- Reads a character that is written as its bytes. -/
def escapedChar (context : Context) (start : Mark) (s : Source) :
    Except SyntaxError (TagName × Source) :=
  match s.percentOctet? with
  | none => .error (.within context start .badTagEscape s.mark)
  | some o =>
    match octetCount? o with
    | none => .error (.within context start .badLeadingOctet s.mark)
    | some n => furtherOctets context start (n - 1) [.ofNat o] (s.advance 3)

/-- Characters of a tag's name; commas and brackets only inside `!<…>` and directives. -/
def isTagChar (verbatim : Bool) (c : Option Char) : Bool :=
  isNameChar c
    || isOneOf
        [';', '/', '?', ':', '@', '&', '=', '+', '$', '.', '%', '!', '~', '*', '\'', '(', ')'] c
    || (verbatim && isOneOf [',', '[', ']'] c)

/-- Reads the characters of a tag's name; those before are in reverse. -/
def tagChars (context : Context) (start : Mark) (verbatim : Bool) :
    Nat → TagName → Source → Except SyntaxError (TagName × Source)
  | 0, before, s => .ok (before.reverse, s)
  | fuel + 1, before, s =>
    match s.peek with
    | none => .ok (before.reverse, s)
    | some c =>
      if !isTagChar verbatim (some c) then .ok (before.reverse, s)
      else if c = '%' then do
        let (bytes, s) ← escapedChar context start s
        tagChars context start verbatim fuel (bytes.reverse ++ before) s
      else tagChars context start verbatim fuel (.ofNat c.toNat :: before) (s.advance 1)

/-- Reads the name of a tag. What a handle without closing mark left over comes first. -/
def tagUri (context : Context) (start : Mark) (verbatim : Bool) (head : List Char) (s : Source) :
    Except SyntaxError (TagName × Source) := do
  let (bytes, rest) ← tagChars context start verbatim s.bound [] s
  if head.isEmpty && bytes.isEmpty then .error (.within context start .missingTagUri rest.mark)
  else
    let name := TagName.ofText (String.ofList (head.drop 1)) ++ bytes
    .ok (name.takeWhile (· != 0), rest)

/-- Reads the handle of a tag, which need not be closed by a second mark. -/
def tagHandle (context : Context) (start : Mark) (s : Source) :
    Except SyntaxError (List Char × Source) :=
  if !s.at? '!' then .error (.within context start .missingTagMark s.mark)
  else
    let (cs, s) := (s.advance 1).name
    if s.at? '!' then .ok ('!' :: (cs ++ ['!']), s.advance 1) else .ok ('!' :: cs, s)

/-- Whether a handle has a mark at both ends. -/
def isClosedHandle (handle : List Char) : Bool :=
  1 < handle.length && handle.getLast? == some '!'

/-- Reads the handle and the suffix of a tag. The tag `!` alone has the empty handle. -/
def tagParts (s : Source) : Except SyntaxError ((List Char × TagName) × Source) :=
  if s.peekAt 1 == some '<' then do
    let (suffix, rest) ← tagUri .tagUri s.mark true [] (s.advance 2)
    if rest.at? '>' then .ok (([], suffix), rest.advance 1)
    else .error (.within .tag s.mark .missingTagEnd rest.mark)
  else do
    let (handle, rest) ← tagHandle .tag s.mark s
    if isClosedHandle handle then
      let (suffix, rest) ← tagUri .tagUri s.mark false [] rest
      .ok ((handle, suffix), rest)
    else
      let (suffix, rest) ← tagUri .tagUri s.mark false handle rest
      .ok ((if suffix.isEmpty then ([], .ofText "!") else (['!'], suffix)), rest)

/-- Reads a tag. A blank must follow it, or a comma inside a flow collection. -/
def tagToken (inFlow : Bool) (s : Source) : Except SyntaxError (Token × Source) := do
  let ((handle, suffix), rest) ← tagParts s
  if isBlankOrEnd rest.peek || (inFlow && rest.at? ',') then
    .ok (⟨.tag (String.ofList handle) suffix, s.mark, rest.mark⟩, rest)
  else .error (.within .tag s.mark .missingBlankOrBreak rest.mark)

/-! ### Directives -/

/-- Reads one number of a version, of nine digits at most. -/
def versionNumber (start : Mark) (s : Source) : Except SyntaxError (Nat × Source) :=
  let (ds, rest) := s.span fun c => '0' ≤ c && c ≤ '9'
  if 9 < ds.length then .error (.within .versionDirective start .longVersion (s.advance 9).mark)
  else if ds.isEmpty then .error (.within .versionDirective start .missingVersion s.mark)
  else .ok (ds.foldl (fun n c => 10 * n + (c.toNat - 48)) 0, rest)

/-- Reads the value of a version directive. -/
def versionValue (start : Mark) (s : Source) : Except SyntaxError (TokenKind × Source) := do
  let (major, s) ← versionNumber start s.skipBlanks
  if s.at? '.' then
    let (minor, s) ← versionNumber start (s.advance 1)
    .ok (.version major minor, s)
  else .error (.within .versionDirective start .missingVersionPoint s.mark)

/-- Reads the value of a tag directive. -/
def tagDirectiveValue (start : Mark) (s : Source) : Except SyntaxError (TokenKind × Source) := do
  let (handle, s) ← tagHandle .tagDirectiveHandle start s.skipBlanks
  if !isClosedHandle handle && handle != ['!'] then
    .error (.within .tagDirectiveHandleEnd start .missingTagMark s.mark)
  if !isBlank s.peek then .error (.within .tagDirective start .missingBlank s.mark)
  let (replacement, s) ← tagUri .tagDirectiveUri start true [] s.skipBlanks
  if !isBlankOrEnd s.peek then .error (.within .tagDirective start .missingBlankOrBreak s.mark)
  .ok (.tagDirective (String.ofList handle) replacement, s)

/-- Reads a directive and the rest of its line. -/
def directive (s : Source) : Except SyntaxError (Token × Source) := do
  let start := s.mark
  let (cs, rest) := (s.advance 1).name
  if cs.isEmpty then .error (.within .directive start .missingDirectiveName rest.mark)
  if !isBlankOrEnd rest.peek then .error (.within .directive start .badDirectiveName rest.mark)
  let (kind, rest) ←
    if cs = "YAML".toList then versionValue start rest
    else if cs = "TAG".toList then tagDirectiveValue start rest
    else .error (.within .directive start .unknownDirective rest.mark)
  let token : Token := ⟨kind, start, rest.mark⟩
  let rest := rest.skipBlanks.skipComment
  if isBreakOrEnd rest.peek then .ok (token, rest.skipLine)
  else .error (.within .directive start .missingLineBreak rest.mark)

end Source

end DocCheck.Yaml
