import DocCheck.CommandLine

/-!
# The program

Reads the environment and the files that a run may ask for, and prints what `CommandLine.execute`
says.
-/

namespace DocCheck.Main

/-- The environment variables that the program looks at. -/
def variableNames : List String :=
  [Config.rootVariable, Config.versionVariable, Log.variableName, "CLICOLOR_FORCE", "NO_COLOR"]

/-- The error that the system reports, in the words of this library. -/
def fileError : IO.Error → FileError
  | .noFileOrDirectory .. => .notFound
  | .inappropriateType _ code _ => if code = 20 then .notDirectory else .isDirectory
  | .permissionDenied .. => .denied
  | e => .other (toString e)

/-- The text of a file on disk. -/
def readFile (path : String) : IO (Except FileError String) := do
  try
    let bytes ← IO.FS.readBinFile path
    return (String.fromUTF8? bytes).elim (.error .notText) .ok
  catch e => return .error (fileError e)

/-- The names in a directory; none if it cannot be listed. -/
def namesIn (dir : String) : IO (List String) := do
  try
    let place ← IO.FS.realPath (if dir.isEmpty then "." else dir)
    let entries ← place.readDir
    return entries.toList.map fun e => e.fileName
  catch _ => return []

/-- The paths that a run may ask for: everything in the version directory, and the files. -/
def pathsOf (config : Config) (tokens : List String) : IO (List String) := do
  let names ← namesIn config.versionDir
  let wanted := Kind.all.map Kind.schemaFile ++ names
  return wanted.map (Path.join config.versionDir)
    ++ tokens.filter fun t => !Classifier.isFlag t

/-- The files on disk at some paths. -/
def snapshot (paths : List String) : IO Files := do
  let mut found : List (String × Except FileError String) := []
  for path in paths do
    found := (path, ← readFile path) :: found
  let known := found
  return ⟨fun path => (known.lookup path).getD (.error .notFound)⟩

end DocCheck.Main

open DocCheck in
/-- Runs the program on the arguments of the command line. -/
def main (args : List String) : IO UInt32 := do
  let values ← Main.variableNames.mapM fun name => return (name, ← IO.getEnv name)
  let lookup (name : String) : Option String := (values.lookup name).join
  let paths ←
    match Config.ofLookup lookup with
    | .ok config => Main.pathsOf config args
    | .error _ => pure []
  let output := CommandLine.execute lookup (← Main.snapshot paths) (args.map .text)
  for line in output.stderr do
    IO.eprintln line
  IO.print output.stdout
  return output.status.toUInt32
