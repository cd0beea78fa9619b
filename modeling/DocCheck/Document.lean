import DocCheck.Yaml.ToJson
import DocCheck.Yaml.Value.Reader

/-!
# Documents

A document is YAML text, and only what JSON can say is accepted.
-/

namespace DocCheck

/-- Why a text is no document. -/
inductive DocumentError where
  /-- The text is not one YAML document. -/
  | unreadable (error : Yaml.ReadError)
  /-- JSON cannot say what the document says. -/
  | refused (refusal : Yaml.Refusal)

namespace DocumentError

def message : DocumentError → String
  | unreadable e => e.message
  | refused r => r.message

end DocumentError

/-- The JSON value of a YAML text. -/
def readDocument (text : String) : Except DocumentError Json :=
  match Yaml.Value.read text with
  | .error e => .error (.unreadable e)
  | .ok v =>
    match v.toJson with
    | .error r => .error (.refused r)
    | .ok j => .ok j

end DocCheck
