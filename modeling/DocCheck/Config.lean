import DocCheck.Path
import DocCheck.Text.Blank

/-!
# Configuration

Where schemas are found: a root directory with one directory per schema version. Both names have
a default and can be set in the environment.

* `ConfigError` — what makes a command line or an environment unusable;
* `Config.ofLookup` — the configuration that an environment gives;
* `Config.versionDir` — the directory with the schema files.
-/

namespace DocCheck

/-- An unusable command line or environment. Nothing is read after such an error. -/
inductive ConfigError where
  /-- A token with two dashes that is no mode switch. -/
  | unknownFlag (flag : String)
  /-- A setting for the whole run after the first file. -/
  | orderViolation (flag firstFile : String)
  /-- A file met while its kind can neither be told from its path nor is named by a switch. -/
  | unclassified (path : String)
  /-- An environment variable with an unusable value. -/
  | invalidSetting (name reason : String)
  deriving DecidableEq

namespace ConfigError

def message : ConfigError → String
  | unknownFlag flag => "unrecognized flag '" ++ flag ++ "'"
  | orderViolation flag first =>
    flag ++ " must come before any file arguments (found after '" ++ first ++ "')"
  | unclassified path =>
    "cannot determine document kind for '" ++ path
      ++ "': sniffing is disabled and neither --profiles nor --legacies is in effect"
  | invalidSetting name reason => "invalid value for " ++ name ++ ": " ++ reason

end ConfigError

/-- Where the schemas of a run are. -/
structure Config where
  /-- The directory with one directory per schema version. -/
  schemaRoot : String
  /-- The name of the version directory. -/
  schemaVersion : String
  deriving DecidableEq

namespace Config

/-- The environment variable for the schema root. -/
def rootVariable : String := "PROFCHECK_SCHEMA_ROOT"

/-- The environment variable for the schema version. -/
def versionVariable : String := "PROFCHECK_SCHEMA_VERSION"

/-- The configuration of an empty environment. -/
def standard : Config := ⟨"schemas", "v1"⟩

/-- The directory with the schema files. -/
def versionDir (c : Config) : String := Path.join c.schemaRoot c.schemaVersion

/-- Whether two configurations name the same places. -/
def same (a b : Config) : Bool :=
  Path.same a.schemaRoot b.schemaRoot && a.schemaVersion == b.schemaVersion

/-- The value of a variable, or a default if it is not set. A blank value is refused. -/
def setting (lookup : String → Option String) (name fallback : String) :
    Except ConfigError String :=
  match lookup name with
  | none => .ok fallback
  | some value =>
    if Text.isBlankText value then .error (.invalidSetting name "value is empty") else .ok value

/-- Whether a version names one directory below the root. -/
def isDirName (version : String) : Bool :=
  !version.toList.contains '/' && !version.toList.contains '\\' && version != ".."

/-- The configuration that an environment gives. The root is looked at first; a version must name
one directory below the root. -/
def ofLookup (lookup : String → Option String) : Except ConfigError Config := do
  let root ← setting lookup rootVariable standard.schemaRoot
  let version ← setting lookup versionVariable standard.schemaVersion
  if isDirName version then .ok ⟨root, version⟩
  else
    .error (.invalidSetting versionVariable ("'" ++ version ++ "' is not a single directory name"))

end Config

end DocCheck
