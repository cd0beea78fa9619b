import DocCheck.Validator

/-!
# Tightened directories

Strictness is applied in two places: to the schema that a validator is made of, and to each schema
that its references are looked up to. Both tighten what they read and nothing else, so it is all the
same whether schemas are tightened while they are read or were tightened in their files before.

* `TightenedDir` — a directory whose files hold the tightened schemas of another one;
* `TightenedDir.retrieve_eq` — every URI is looked up to the same schema, or fails the same way;
* `TightenedDir.load_eq` — the validators are the same.
-/

namespace DocCheck

/-! ### Names of files -/

/-- A name of a file in a directory: neither empty nor the directory above, and without slash. -/
def IsFileName (name : String) : Prop := name ≠ "" ∧ name ≠ ".." ∧ '/' ∉ name.toList

/-- Only names of files are looked up. -/
theorem isFileName_of_fileName? {uri name : String} (h : SchemaDir.fileName? uri = some name) :
    IsFileName name := by
  unfold SchemaDir.fileName? at h
  rw [Option.ite_none_left_eq_some, Option.some.injEq] at h
  obtain ⟨hgood, rfl⟩ := h
  rw [Bool.or_eq_true, not_or, String.isEmpty_iff, beq_iff_eq] at hgood
  refine ⟨hgood.1, hgood.2, fun hs => ?_⟩
  rw [String.toList_ofList, List.mem_reverse] at hs
  have hne := List.all_eq_true.mp List.all_takeWhile _ hs
  simp at hne

theorem isFileName_schemaFile (kind : Kind) : IsFileName kind.schemaFile := by
  cases kind <;> exact ⟨by decide, by decide, by decide⟩

/-! ### Files with tightened schemas -/

/-- What is read at a path stays, but for the text of a schema, in whose place there is some text of
the tightened schema. -/
inductive TightenedFile : Except FileError String → Except FileError String → Prop where
  /-- Nothing can be read. -/
  | unreadable (e : FileError) : TightenedFile (.error e) (.error e)
  /-- A text that is no schema. -/
  | text (s : String) (e : JsonError) (h : Json.read s = .error e) : TightenedFile (.ok s) (.ok s)
  /-- The text of a schema. -/
  | schema (s s' : String) (schema : Json) (h : Json.read s = .ok schema)
    (h' : Json.read s' = .ok (Schema.tighten schema)) : TightenedFile (.ok s) (.ok s')

/-- In the directory `dir`, `used` has what `written` has there, with each schema tightened. -/
def TightenedDir (dir : String) (written used : Files) : Prop :=
  ∀ name, IsFileName name →
    TightenedFile (written.read (Path.join dir name)) (used.read (Path.join dir name))

namespace TightenedDir

variable {dir : String} {written used : Files}

/-- **Looking up.** Tightening schemas as they are looked up gives what is looked up in the
tightened directory. -/
theorem retrieve_eq (h : TightenedDir dir written used) :
    SchemaDir.retrieve ⟨written, dir, .tight⟩ = SchemaDir.retrieve ⟨used, dir, .loose⟩ := by
  funext uri
  unfold SchemaDir.retrieve SchemaDir.pathOf?
  cases hname : SchemaDir.fileName? uri with
  | none => rfl
  | some name =>
    have hfile := h name (isFileName_of_fileName? hname)
    simp only [Option.map_some]
    revert hfile
    generalize written.read (Path.join dir name) = w
    generalize used.read (Path.join dir name) = u
    intro hfile
    cases hfile with
    | unreadable e => rfl
    | text s e hs => simp only [hs]
    | schema s s' schema hs hs' =>
      simp only [hs, hs']
      rfl

/-- **The schema of a kind.** Reading it fails in both directories in the same way, or gives a
schema and what it is tightened to. -/
theorem readSchema_eq {config : Config} (h : TightenedDir config.versionDir written used)
    (kind : Kind) :
    Validator.readSchema used kind (Path.join config.versionDir kind.schemaFile) =
      (Validator.readSchema written kind (Path.join config.versionDir kind.schemaFile)).map
        Schema.tighten := by
  have hfile := h kind.schemaFile (isFileName_schemaFile kind)
  unfold Validator.readSchema
  revert hfile
  generalize written.read (Path.join config.versionDir kind.schemaFile) = w
  generalize used.read (Path.join config.versionDir kind.schemaFile) = u
  intro hfile
  cases hfile with
  | unreadable e => rfl
  | text s e hs =>
    simp only [hs]
    rfl
  | schema s s' schema hs hs' =>
    simp only [hs, hs']
    rfl

/-- **Compiling.** The same schema makes the same validator, or fails the same way. -/
theorem compile_eq (h : TightenedDir dir written used) (kind : Kind) (schema : Json)
    (source : String) :
    (Validator.compile kind schema source ⟨written, dir, .tight⟩).result =
      (Validator.compile kind (Schema.tighten schema) source ⟨used, dir, .loose⟩).result := by
  unfold Validator.compile
  simp only [h.retrieve_eq, Strictness.apply]
  cases Schema.Program.build (SchemaDir.retrieve ⟨used, dir, .loose⟩) (Schema.tighten schema) with
  | mk read built => cases built <;> rfl

/-- Loading the validator of a kind ends the same way. -/
theorem load_eq {config : Config} (h : TightenedDir config.versionDir written used) (kind : Kind) :
    (Validator.load written config .tight kind).result =
      (Validator.load used config .loose kind).result := by
  unfold Validator.load
  simp only [h.readSchema_eq kind]
  cases Validator.readSchema written kind (Path.join config.versionDir kind.schemaFile) with
  | error e => rfl
  | ok schema =>
    have hc := h.compile_eq kind schema (Path.join config.versionDir kind.schemaFile)
    simp only [Except.map]
    revert hc
    generalize Validator.compile _ schema _ _ = tight
    generalize Validator.compile _ (Schema.tighten schema) _ _ = loose
    obtain ⟨_, tight⟩ := tight
    obtain ⟨_, loose⟩ := loose
    intro hc
    obtain rfl : tight = loose := hc
    cases tight <;> rfl

end TightenedDir

/-- **Tight is loose on tightened files.** From any directory the tight validator of a kind, and from
its tightened directory the loose one, are refused for the same reason, or both exist and find the
same violations in every document. -/
theorem load_tight_eq_load_tightened {written used : Files} {config : Config}
    (h : TightenedDir config.versionDir written used) (kind : Kind) :
    (∃ e, (Validator.load written config .tight kind).result = .error e ∧
        (Validator.load used config .loose kind).result = .error e) ∨
      ∃ tight loose, (Validator.load written config .tight kind).result = .ok tight ∧
        (Validator.load used config .loose kind).result = .ok loose ∧
        ∀ document, tight.violations document = loose.violations document := by
  rw [h.load_eq kind]
  cases hl : (Validator.load used config .loose kind).result with
  | error e => exact .inl ⟨e, rfl, rfl⟩
  | ok v => exact .inr ⟨v, v, rfl, rfl, fun _ => rfl⟩

/-! ### A directory with a cycle

The schema of profiles refers to another file, which closes a cycle by referring back and also has
a schema for legacy documents that is no JSON beside it. -/

/-- Files that refer to one another. -/
def cyclicFiles : Files where
  read path :=
    if path = "schemas/v1/profiles.json" then .ok "\x7b\"$ref\": \"node.json\"\x7d"
    else if path = "schemas/v1/node.json" then
      .ok "\x7b\"type\":\"object\",\"properties\":\x7b\"next\":\x7b\"$ref\":\"profiles.json\"\x7d\x7d\x7d"
    else if path = "schemas/v1/legacies.json" then .ok "none"
    else .error .notFound

/-- The same files, tightened. -/
def tightenedCyclicFiles : Files where
  read path :=
    if path = "schemas/v1/profiles.json" then .ok "\x7b\"$ref\": \"node.json\"\x7d"
    else if path = "schemas/v1/node.json" then
      .ok ("\x7b\"type\":\"object\",\"additionalProperties\":false,"
        ++ "\"properties\":\x7b\"next\":\x7b\"$ref\":\"profiles.json\"\x7d\x7d\x7d")
    else if path = "schemas/v1/legacies.json" then .ok "none"
    else .error .notFound

theorem tightenedDir_cyclicFiles :
    TightenedDir Config.standard.versionDir cyclicFiles tightenedCyclicFiles := by
  intro name _
  generalize Path.join Config.standard.versionDir name = path
  simp only [cyclicFiles, tightenedCyclicFiles]
  split
  · exact .schema _ _ (.obj [("$ref", .str "node.json")]) rfl rfl
  split
  · exact .schema _ _ (.obj
      [("properties", .obj [("next", .obj [("$ref", .str "profiles.json")])]),
        ("type", .str "object")]) rfl rfl
  split
  · exact .text _ _ rfl
  · exact .unreadable _

theorem load_tight_eq_load_tightened_cyclicFiles :
    TightenedDir Config.standard.versionDir cyclicFiles tightenedCyclicFiles ∧
      ∃ tight loose, (Validator.load cyclicFiles .standard .tight .profile).result = .ok tight ∧
        (Validator.load tightenedCyclicFiles .standard .loose .profile).result = .ok loose ∧
        ∀ document, tight.violations document = loose.violations document := by
  have hok : (Validator.load cyclicFiles .standard .tight .profile).result.isOk = true := by
    decide +kernel
  refine ⟨tightenedDir_cyclicFiles, ?_⟩
  rcases load_tight_eq_load_tightened tightenedDir_cyclicFiles .profile with ⟨e, ht, _⟩ | h
  · rw [ht] at hok
    exact nomatch hok
  · exact h

end DocCheck
