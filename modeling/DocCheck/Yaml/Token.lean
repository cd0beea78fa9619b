import DocCheck.Yaml.Problem

/-!
# YAML tokens

The tokens of a YAML text. Indentation has been turned into tokens that start and end block
collections, and every key is announced by a token of its own.
-/

namespace DocCheck.Yaml

/-- The name of a tag or a part of it, in bytes. Bytes can be written by their numbers, so that a
name need not be text. -/
abbrev TagName : Type := List UInt8

/-- The name of a tag that a text says. -/
def TagName.ofText (text : String) : TagName := text.toUTF8.toList

/-- What a token is. -/
inductive TokenKind where
  /-- The start of the text. -/
  | streamStart
  /-- The end of the text. -/
  | streamEnd
  /-- A directive that names the version. -/
  | version (major minor : Nat)
  /-- A directive that says what a tag handle stands for. -/
  | tagDirective (handle : String) (replacement : TagName)
  /-- The mark `---`. -/
  | documentStart
  /-- The mark `...`. -/
  | documentEnd
  /-- A block list starts. -/
  | blockSequenceStart
  /-- A block mapping starts. -/
  | blockMappingStart
  /-- A block list or mapping ends. -/
  | blockEnd
  /-- A bracket opens. -/
  | flowSequenceStart
  /-- A bracket closes. -/
  | flowSequenceEnd
  /-- A brace opens. -/
  | flowMappingStart
  /-- A brace closes. -/
  | flowMappingEnd
  /-- A dash before a list entry. -/
  | blockEntry
  /-- A comma. -/
  | flowEntry
  /-- A key follows. -/
  | key
  /-- A value follows. -/
  | value
  /-- A reference to an anchor. -/
  | aliasName (name : String)
  /-- A name for the node that follows. -/
  | anchor (name : String)
  /-- A tag for the node that follows. -/
  | tag (handle : String) (suffix : TagName)
  /-- A scalar, and whether it is plain, that is, neither quoted nor a block. -/
  | scalar (text : String) (plain : Bool)
  deriving DecidableEq

/-- A token and its place. -/
structure Token where
  kind : TokenKind
  start : Mark
  stop : Mark
  deriving DecidableEq

end DocCheck.Yaml
