import DocCheck.Location

/-!
# Violations

A violation is one thing about a document that its schema does not allow: where it is, which
keyword of the schema found it, and a description. A report shows each on one line.

* `Violation`, `ViolationKind` — what was found;
* `Violation.line` — the line of a report.
-/

namespace DocCheck

/-- Which keyword found a violation. -/
inductive ViolationKind where
  /-- A member that the schema does not list. -/
  | additionalProperty (property : String)
  /-- A member that the schema asks for is missing. -/
  | required (property : String)
  /-- Any other keyword. -/
  | other (keyword : String)
  deriving DecidableEq

namespace ViolationKind

def keyword : ViolationKind → String
  | additionalProperty _ => "additionalProperties"
  | required _ => "required"
  | other keyword => keyword

/-- The name of the kind in answers. -/
def name : ViolationKind → String
  | additionalProperty _ => "AdditionalProperty"
  | required _ => "Required"
  | other _ => "Other"

/-- The member that the violation is about, if it is about one. -/
def property? : ViolationKind → Option String
  | additionalProperty p => some p
  | required p => some p
  | other _ => none

end ViolationKind

/-- One violation of a schema. -/
structure Violation where
  /-- Where in the document; empty for its root. -/
  location : String
  /-- Which keyword found it. -/
  kind : ViolationKind
  /-- A description. -/
  message : String
  deriving DecidableEq

namespace Violation

/-- A location without a dot in front. -/
def withoutDot : List Char → List Char
  | '.' :: rest => rest
  | cs => cs

/-- The full location of a member that the schema does not list. -/
def memberLocation (location property : List Char) : List Char :=
  if Location.isIdentifier property then
    -- The dot in front of a location that is not empty stays.
    if location.isEmpty then property else location ++ '.' :: property
  else location ++ '[' :: (Json.quoteChars property ++ [']'])

/-- The line of a report. A member that is not listed is named by its full location; anything else
is described, with the location in front unless it is the root's. -/
def line (v : Violation) : String :=
  match v.kind with
  | .additionalProperty property =>
    String.ofList (memberLocation v.location.toList property.toList) ++ " is not a thing"
  | _ =>
    let place := withoutDot v.location.toList
    if place.isEmpty then v.message else String.ofList place ++ " " ++ v.message

end Violation

end DocCheck
