import DocCheck.Character.Age
import DocCheck.Character.Break
import DocCheck.Character.Category
import DocCheck.Character.Composition
import DocCheck.Character.Script
import DocCheck.Character.Set
import DocCheck.Character.Trait

/-!
# Properties of characters

The set of characters with a property, by the name of the property. Names are compared without case,
blanks, hyphens, low lines and a leading `is`. A single name is that of a trait, a category or a
script; a name with a value is that of a category, a script, the scripts that use a character, an
age, which includes all younger versions, or a role at breaks.

* `Character.normalName` — what is compared of a name;
* `Character.named?`, `Character.valued?` — the sets of a name and of a name with a value.
-/

namespace DocCheck.Character

/-- A table of sets that have names. -/
abbrev Table := List (List String × List String)

/-- The set with a name in a table. -/
def find? (table : Table) (name : String) : Option CharSet :=
  (table.find? fun e => e.1.contains name).map fun e => .ofRuns e.2

/-- What is compared of a name. The name `isc` stands for itself. -/
def normalName (name : String) : String :=
  let rest :=
    match name.toList with
    | a :: b :: cs => if (a == 'i' || a == 'I') && (b == 's' || b == 'S') then cs else a :: b :: cs
    | cs => cs
  let kept := rest.filter fun c => c.toNat < 0x80 && c != ' ' && c != '_' && c != '-'
  let normal := String.ofList (kept.map Char.toLower)
  if normal == "c" && rest.length + 2 == name.length then "isc" else normal

def category (name : String) : CharSet := (find? categoryTable name).getD .none

def assigned : CharSet := .unions (categoryTable.map fun e => .ofRuns e.2)

/-- The characters of a category or of a group of categories. -/
def category? (name : String) : Option CharSet :=
  match name with
  | "any" => some .all
  | "assigned" => some assigned
  | "ascii" => some ⟨[(0, 0x7F)]⟩
  | "cn" | "unassigned" => some assigned.compl
  | "c" | "other" => some ((assigned.compl.union (category "co")).union
      ((category "cc").union (category "cf")))
  | name =>
    match categoryGroups.find? fun g => g.1.contains name with
    | some g => some (.unions (g.2.map category))
    | none => find? categoryTable name

/-- The characters that belong to a script. -/
def script? (name : String) : Option CharSet := find? scriptTable name

/-- The characters that a script uses. Those common to many scripts, or taken over from the
character before, are left out where the scripts that use them are known. -/
def scriptUse? (name : String) : Option CharSet :=
  match scriptTable.find? fun e => e.1.contains name with
  | none => none
  | some (names, runs) =>
    if names.contains "common" || names.contains "inherited" then
      some ((CharSet.ofRuns runs).diff (.unions (furtherScriptTable.map fun e => .ofRuns e.2)))
    else
      let further := furtherScriptTable.filter fun e => e.1.any names.contains
      some ((CharSet.ofRuns runs).union (.unions (further.map fun e => .ofRuns e.2)))

/-- The characters that a version or one before it brought. -/
def ageUpTo? (name : String) : Option CharSet :=
  if ageTable.any fun e => e.1.contains name then
    let older := ageTable.takeWhile fun e => !e.1.contains name
    some (.unions (((find? ageTable name).toList) ++ older.map fun e => .ofRuns e.2))
  else none

/-- The letters of all categories, and the numbers that are written with letters. -/
def letter : CharSet := .unions (["lu", "ll", "lt", "lm", "lo", "nl"].map category)

/-- What some traits have beyond the characters that they take from categories and other traits. -/
def remainder? (name : String) : Option CharSet :=
  match name with
  | "otheralphabetic" | "oalpha" => (find? traitTable "alphabetic").map (·.diff letter)
  | "otherlowercase" | "olower" => (find? traitTable "lowercase").map (·.diff (category "ll"))
  | "otheruppercase" | "oupper" => (find? traitTable "uppercase").map (·.diff (category "lu"))
  | "othermath" | "omath" => (find? traitTable "math").map (·.diff (category "sm"))
  | "otheridstart" | "oids" => (find? traitTable "idstart").map (·.diff letter)
  | "otheridcontinue" | "oidc" => do
    let all ← find? traitTable "idcontinue"
    let first ← find? traitTable "idstart"
    return all.diff (.unions (first :: ["mn", "mc", "nd", "pc"].map category))
  | "othergraphemeextend" | "ogrext" =>
    (find? traitTable "graphemeextend").map (·.diff ((category "mn").union (category "me")))
  | "otherdefaultignorablecodepoint" | "odi" => do
    let all ← find? traitTable "defaultignorablecodepoint"
    let selectors ← find? traitTable "variationselector"
    return all.diff (selectors.union (category "cf"))
  | _ => none

/-- The class of the marks that join letters. -/
def linkClass : Nat := 9

/-- The marks that join letters to one cluster. -/
def links : CharSet :=
  ((markClasses.find? fun e => e.1 == linkClass).map Prod.snd).getD .none

/-- The characters that have a trait. -/
def trait? (name : String) : Option CharSet :=
  match name with
  | "graphemelink" | "grlink" => some links
  | name => (find? traitTable name).or (remainder? name)

/-- The characters that a single name describes. -/
def named? (name : String) : Option CharSet :=
  let name := normalName name
  ((trait? name).or (category? name)).or (script? name)

/-- The characters for which a property has a value. -/
def valued? (name value : String) : Option CharSet :=
  let value := normalName value
  match normalName name with
  | "gc" | "generalcategory" => category? value
  | "sc" | "script" => script? value
  | "scx" | "scriptextensions" => scriptUse? value
  | "age" => ageUpTo? value
  | "gcb" | "graphemeclusterbreak" => find? clusterTable value
  | "wb" | "wordbreak" => find? wordTable value
  | "sb" | "sentencebreak" => find? sentenceTable value
  | _ => none

/-! ### Sets that are used by themselves -/

/-- The decimal digits of all scripts. -/
def decimal : CharSet := category "nd"

def space : CharSet := (trait? "whitespace").getD .none

/-- The marks, which go with the character before them. -/
def mark : CharSet := .unions (["mn", "mc", "me"].map category)

/-- The characters of words: letters, marks, digits, connectors and joiners. -/
def word : CharSet :=
  .unions (mark :: (["alphabetic", "joincontrol"].filterMap trait?) ++ ["nd", "pc"].map category)

/-- The letters, and what counts as one. -/
def alphabetic : CharSet := (trait? "alphabetic").getD .none

/-- The letters and the numbers of any kind. -/
def alphanumeric : CharSet := .unions (alphabetic :: ["nd", "nl", "no"].map category)

end DocCheck.Character
