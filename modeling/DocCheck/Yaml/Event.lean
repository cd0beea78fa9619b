import DocCheck.Yaml.Token

/-!
# YAML events

The nodes of a YAML text in document order, with collections as pairs of a start and an end.
-/

namespace DocCheck.Yaml

/-- What a node is named and tagged with. -/
structure Properties where
  /-- The name by which aliases refer to the node. -/
  anchor : Option String
  /-- The tag in full. -/
  tag : Option TagName
  deriving DecidableEq

namespace Properties

def none : Properties := ⟨.none, .none⟩

end Properties

/-- What an event is. -/
inductive EventKind where
  /-- The start of the text. -/
  | streamStart
  /-- The end of the text. -/
  | streamEnd
  /-- The start of a document. -/
  | documentStart
  /-- The end of a document. -/
  | documentEnd
  /-- A reference to a node. -/
  | aliasName (name : String)
  /-- A scalar, and whether it is plain. -/
  | scalar (properties : Properties) (text : String) (plain : Bool)
  /-- The start of a list. -/
  | sequenceStart (properties : Properties)
  /-- The end of a list. -/
  | sequenceEnd
  /-- The start of a mapping. -/
  | mappingStart (properties : Properties)
  /-- The end of a mapping. -/
  | mappingEnd
  deriving DecidableEq

/-- An event and where it starts. -/
structure Event where
  kind : EventKind
  mark : Mark
  deriving DecidableEq

end DocCheck.Yaml
