import DocCheck.CommandLine
import DocCheck.Proofs.Loading
import DocCheck.Proofs.Run.Basic

/-!
# What a run reads

Neither the environment nor the references of a schema lead out of the schema root. A version that
is no name of a directory is refused with the environment, and of a reference nothing but its last
segment is taken for the name of a file.

* `ReadsOnly` — the paths that a result depends on;
* `IsSchemaPath` — the paths of schemas: the root, the version, and the name of a file;
* `Config.isFileName_schemaVersion`, `IsSchemaPath.of_pathOf?` — why there are no others;
* `IsSchemaPath.isBelow` — they are below the root;
* `reads_below_root` — all of it together.
-/

namespace DocCheck

/-! ### Paths that are read -/

/-- A result depends on the files at certain paths only, and so nothing else is read for it. -/
def ReadsOnly {α : Type} (paths : String → Prop) (result : Files → α) : Prop :=
  ∀ files files', (∀ path, paths path → files.read path = files'.read path) →
    result files = result files'

/-- A path that goes down from a directory: parts are added to those of the directory, and none of
them goes up again. -/
def Path.IsBelow (dir path : String) : Prop :=
  ∃ parts, Path.components path = Path.components dir ++ parts ∧ ".." ∉ parts

/-- A path of a schema: a name of a file below a name of a version below the schema root. -/
structure IsSchemaPath (config : Config) (path : String) : Prop where
  /-- The version is the name of a directory. -/
  version : IsFileName config.schemaVersion
  /-- The last part is the name of a file. -/
  exists_name : ∃ name, IsFileName name ∧
    path = Path.join (Path.join config.schemaRoot config.schemaVersion) name

variable {lookup : String → Option String} {config : Config} {path : String}

/-! ### The environment -/

namespace Config

/-- A setting that is accepted holds something, as its default does. -/
theorem ne_empty_of_setting {name fallback value : String} (hfallback : fallback ≠ "")
    (h : setting lookup name fallback = .ok value) : value ≠ "" := by
  unfold setting at h
  cases hvalue : lookup name with
  | none =>
    rw [hvalue] at h
    cases h
    exact hfallback
  | some v =>
    rw [hvalue] at h
    dsimp only at h
    split at h
    · cases h
    · next hblank =>
      cases h
      rintro rfl
      exact hblank rfl

/-- An accepted environment names a root, and a version that is the name of one directory. -/
theorem ofLookup_eq_ok (h : ofLookup lookup = .ok config) :
    config.schemaRoot ≠ "" ∧ config.schemaVersion ≠ "" ∧ isDirName config.schemaVersion = true := by
  unfold ofLookup at h
  cases hroot : setting lookup rootVariable standard.schemaRoot with
  | error e =>
    rw [hroot] at h
    cases h
  | ok root =>
    rw [hroot] at h
    cases hversion : setting lookup versionVariable standard.schemaVersion with
    | error e =>
      rw [hversion] at h
      cases h
    | ok version =>
      -- Both variables are usable; it remains to look at the name of the version.
      rw [hversion] at h
      change (if isDirName version then _ else _) = _ at h
      split at h
      · next hname =>
        cases h
        exact ⟨ne_empty_of_setting (by decide) hroot, ne_empty_of_setting (by decide) hversion,
          hname⟩
      · cases h

/-- A version neither holds a slash nor goes up. -/
theorem isFileName_schemaVersion (h : ofLookup lookup = .ok config) :
    IsFileName config.schemaVersion := by
  obtain ⟨_, hempty, hname⟩ := ofLookup_eq_ok h
  rw [isDirName, Bool.and_eq_true, Bool.and_eq_true, bne_iff_ne, Bool.not_eq_true'] at hname
  obtain ⟨⟨hslash, _⟩, hup⟩ := hname
  refine ⟨hempty, hup, fun hmem => ?_⟩
  rw [List.contains_iff_mem.mpr hmem] at hslash
  cases hslash

end Config

/-! ### Paths of schemas -/

namespace IsSchemaPath

/-- Every file of the version directory is at the path of a schema. -/
theorem of_isFileName (h : Config.ofLookup lookup = .ok config) {name : String}
    (hname : IsFileName name) : IsSchemaPath config (Path.join config.versionDir name) :=
  ⟨Config.isFileName_schemaVersion h, name, hname, rfl⟩

/-- **References.** Whatever a URI is, its schema is looked for at the path of a schema. -/
theorem of_pathOf? (h : Config.ofLookup lookup = .ok config) {files : Files} {st : Strictness}
    {uri : String} (hpath : SchemaDir.pathOf? ⟨files, config.versionDir, st⟩ uri = some path) :
    IsSchemaPath config path := by
  rw [SchemaDir.pathOf?, Option.map_eq_some_iff] at hpath
  obtain ⟨name, hname, rfl⟩ := hpath
  exact of_isFileName h (isFileName_of_fileName? hname)

/-- Of a path of a schema, the parts that count are those of the root, and then the version and the
name. Either of these may be a dot, which counts for nothing. -/
theorem components_eq (hroot : config.schemaRoot ≠ "") (h : IsSchemaPath config path) :
    ∃ name, IsFileName name ∧ Path.components path =
      Path.components config.schemaRoot ++ [config.schemaVersion, name].filter (· != ".") := by
  obtain ⟨⟨hversion, _, hversionSlash⟩, name, hname, rfl⟩ := h
  have hdir : Path.join config.schemaRoot config.schemaVersion ≠ "" := by
    rw [Path.join_of_not_mem hversionSlash]
    split <;> simp [hversion]
  refine ⟨name, hname, ?_⟩
  rw [Path.components_join hname.2.2 hname.1 hdir,
    Path.components_join hversionSlash hversion hroot, List.append_assoc, ← List.filter_append]
  rfl

/-- **Containment.** The path of a schema is below the root. -/
theorem isBelow (hroot : config.schemaRoot ≠ "") (h : IsSchemaPath config path) :
    Path.IsBelow config.schemaRoot path := by
  obtain ⟨name, hname, hcomponents⟩ := h.components_eq hroot
  refine ⟨_, hcomponents, fun hup => ?_⟩
  rcases List.mem_pair.mp (List.mem_of_mem_filter hup) with hversion | hlast
  · exact h.version.2.1 hversion.symm
  · exact hname.2.1 hlast.symm

end IsSchemaPath

/-! ### What is read -/

/-- Where the files are the same at the paths of schemas, they are so in the version directory. -/
theorem SameDir.of_isSchemaPath (h : Config.ofLookup lookup = .ok config) {files files' : Files}
    (hsame : ∀ path, IsSchemaPath config path → files.read path = files'.read path) :
    SameDir config.versionDir files files' :=
  fun _ hname => hsame _ (.of_isFileName h hname)

/-- **References.** To look a URI up, at most one file is read. -/
theorem retrieve_readsOnly (dir : String) (st : Strictness) (uri : String) :
    ReadsOnly (fun path => (SchemaDir.fileName? uri).map (Path.join dir) = some path)
      fun files => SchemaDir.retrieve ⟨files, dir, st⟩ uri := by
  intro files files' hsame
  dsimp only
  unfold SchemaDir.retrieve SchemaDir.pathOf?
  cases hname : SchemaDir.fileName? uri with
  | none => rfl
  | some name =>
    simp only [Option.map_some]
    rw [hsame _ (by rw [hname, Option.map_some])]

/-- **Loading.** For a validator, nothing but schemas is read. -/
theorem load_readsOnly (h : Config.ofLookup lookup = .ok config) (st : Strictness) (kind : Kind) :
    ReadsOnly (IsSchemaPath config) fun files => Validator.load files config st kind :=
  fun _ _ hsame => (SameDir.of_isSchemaPath h hsame).load_eq st kind

/-- **Checking.** To check files, nothing but these files is read. -/
theorem runFiles_readsOnly (set : ValidatorSet) (inputs : List InputFile) :
    ReadsOnly (· ∈ inputs.map InputFile.path) fun files => runFiles files set inputs := by
  intro files files' hsame
  have hchecks : checkFiles files set inputs = checkFiles files' set inputs := by
    unfold checkFiles
    cases hpairs : withValidators set inputs with
    | error e => rfl
    | ok pairs =>
      have hcheck : ∀ p ∈ pairs, checkFile files p.2 p.1 = checkFile files' p.2 p.1 := by
        intro p hp
        unfold checkFile checkPath
        rw [hsame _ (List.mem_map_of_mem (fst_mem_of_withValidators hpairs p hp))]
      dsimp only
      rw [List.map_congr_left hcheck]
  dsimp only
  unfold runFiles
  rw [hchecks]

/-- **A run** reads schemas, and the files that its tokens name. -/
theorem run_readsOnly (h : Config.ofLookup lookup = .ok config) (tokens : List String) :
    ReadsOnly (fun path => IsSchemaPath config path ∨ path ∈ tokens ∧ Classifier.isFlag path = false)
      fun files => run files config tokens := by
  intro files files' hsame
  dsimp only
  -- Up to the schemas nothing is read; then come the schemas, and the files only after them.
  unfold run
  cases hc : classify tokens with
  | error e => rfl
  | ok c =>
    have hload : ValidatorSet.load files config c.strictness c.kinds =
        ValidatorSet.load files' config c.strictness c.kinds :=
      (SameDir.of_isSchemaPath h fun path hpath => hsame path (.inl hpath)).loadSet_eq _ _
    have hcheck : ∀ set, runFiles files set c.files = runFiles files' set c.files := by
      intro set
      refine runFiles_readsOnly set c.files files files' fun path hpath => hsame path (.inr ?_)
      rw [paths_of_classify hc, List.mem_filter, Bool.not_eq_true'] at hpath
      exact hpath
    have hclassified : runClassified files config c = runClassified files' config c := by
      unfold runClassified
      simp only [hload, hcheck]
    dsimp only
    rw [hclassified]

/-- The program reads what its run reads. -/
theorem execute_readsOnly (h : Config.ofLookup lookup = .ok config)
    (args : List CommandLine.Argument) :
    ReadsOnly (fun path => IsSchemaPath config path ∨
        ∃ verbosity tokens, CommandLine.parse args = .run verbosity tokens ∧ path ∈ tokens ∧
          Classifier.isFlag path = false)
      fun files => CommandLine.execute lookup files args := by
  intro files files' hsame
  dsimp only
  unfold CommandLine.execute
  cases hrequest : CommandLine.parse args with
  | run verbosity tokens =>
    have hrun : run files config tokens = run files' config tokens := by
      refine run_readsOnly h tokens files files' fun path hpath => hsame path ?_
      exact hpath.imp id fun hfile => ⟨verbosity, tokens, hrequest, hfile⟩
    simp only [CommandLine.executeRun, h, hrun]
  | _ => rfl

/-! ### The schema root -/

/-- **Nothing leads out of the schema root.** Once an environment is accepted, the schema of a kind,
and that of any URI that a schema may refer to, is looked for at the path of a schema: the name of a
file below a version below the root, where neither the version nor the name is empty, goes up or
holds a slash. Every such path is below the root. Looking up a URI reads that one file at most,
loading a validator reads schemas only, and the whole program reads nothing besides but the files
that it is told to check. -/
theorem reads_below_root (h : Config.ofLookup lookup = .ok config) :
    (∀ kind : Kind, IsSchemaPath config (Path.join config.versionDir kind.schemaFile)) ∧
      (∀ files st uri path, SchemaDir.pathOf? ⟨files, config.versionDir, st⟩ uri = some path →
        IsSchemaPath config path) ∧
      (∀ path, IsSchemaPath config path → Path.IsBelow config.schemaRoot path) ∧
      (∀ st uri,
        ReadsOnly (fun path => (SchemaDir.fileName? uri).map (Path.join config.versionDir) = some path)
          fun files => SchemaDir.retrieve ⟨files, config.versionDir, st⟩ uri) ∧
      (∀ st kind, ReadsOnly (IsSchemaPath config) fun files => Validator.load files config st kind) ∧
      ∀ args, ReadsOnly (fun path => IsSchemaPath config path ∨
          ∃ verbosity tokens, CommandLine.parse args = .run verbosity tokens ∧ path ∈ tokens ∧
            Classifier.isFlag path = false)
        fun files => CommandLine.execute lookup files args := by
  have hroot : config.schemaRoot ≠ "" := (Config.ofLookup_eq_ok h).1
  exact ⟨fun kind => .of_isFileName h (isFileName_schemaFile kind),
    fun _ _ _ _ hpath => .of_pathOf? h hpath, fun _ hpath => hpath.isBelow hroot,
    retrieve_readsOnly config.versionDir, load_readsOnly h, execute_readsOnly h⟩

/-- An environment with a root that ends with a slash. -/
def slashLookup (name : String) : Option String :=
  if name = Config.rootVariable then some "/opt/schemas/"
  else if name = Config.versionVariable then some "v3"
  else none

/-- Its configuration. -/
def slashConfig : Config := ⟨"/opt/schemas/", "v3"⟩

/-- A reference that tries to go up stays in the version directory. -/
theorem reads_below_root_slashConfig :
    Config.ofLookup slashLookup = .ok slashConfig ∧
      (∀ files st, SchemaDir.pathOf? ⟨files, slashConfig.versionDir, st⟩
        "json-schema:///../../etc/passwd" = some "/opt/schemas/v3/passwd") ∧
      IsSchemaPath slashConfig "/opt/schemas/v3/passwd" ∧
      Path.IsBelow slashConfig.schemaRoot "/opt/schemas/v3/passwd" := by
  have hlookup : Config.ofLookup slashLookup = .ok slashConfig := by decide
  have hname : (SchemaDir.fileName? "json-schema:///../../etc/passwd").map
      (Path.join slashConfig.versionDir) = some "/opt/schemas/v3/passwd" := by decide
  obtain ⟨_, hschema, hbelow, _⟩ := reads_below_root hlookup
  have hpasswd : IsSchemaPath slashConfig "/opt/schemas/v3/passwd" :=
    hschema ⟨fun _ => .error .notFound⟩ .tight _ _ hname
  exact ⟨hlookup, fun _ _ => hname, hpasswd, hbelow _ hpasswd⟩

end DocCheck
