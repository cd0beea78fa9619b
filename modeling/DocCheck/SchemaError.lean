import DocCheck.Kind

/-!
# Unusable schemas

What can go wrong while the schema of one kind is prepared. Each of these ends a run before any
document is read.
-/

namespace DocCheck

/-- Why a kind has no validator. -/
inductive SchemaError where
  /-- The schema file is missing, unreadable or no JSON text. -/
  | load (kind : Kind) (path reason : String)
  /-- The file holds no usable schema. -/
  | compile (kind : Kind) (path reason : String)
  /-- The preparation ended without a result. -/
  | interrupted (kind : Kind) (reason : String)
  deriving DecidableEq

namespace SchemaError

/-- The kind whose schema is unusable. -/
def kind : SchemaError → Kind
  | load k _ _ => k
  | compile k _ _ => k
  | interrupted k _ => k

def message : SchemaError → String
  | load k path reason => "cannot load " ++ k.name ++ " schema '" ++ path ++ "': " ++ reason
  | compile k path reason => "cannot compile " ++ k.name ++ " schema '" ++ path ++ "': " ++ reason
  | interrupted k reason => k.name ++ " schema loader did not complete: " ++ reason

end SchemaError

end DocCheck
