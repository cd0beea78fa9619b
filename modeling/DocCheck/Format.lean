import DocCheck.Format.Host
import DocCheck.Format.Host.International
import DocCheck.Format.Mail
import DocCheck.Format.Template
import DocCheck.Format.Time
import DocCheck.Pattern.Basic
import DocCheck.Schema.Draft
import DocCheck.Uri

/-!
# Formats

A format is a named set of texts, such as dates or mail addresses. A draft asserts some formats;
names that it does not assert say nothing.

* `Format.ofName?` — the format of a name in a draft;
* `Format.accepts` — the texts of a format.
-/

namespace DocCheck

/-- The formats that are asserted. -/
inductive Format where
  /-- A date and a time of day. -/
  | dateTime
  /-- A date. -/
  | date
  /-- A time of day. -/
  | time
  /-- A mail address. -/
  | email
  /-- A mail address in any script. -/
  | idnEmail
  /-- The name of a host. -/
  | hostname
  /-- The name of a host in any script. -/
  | idnHostname
  /-- An address of four numbers. -/
  | ipv4
  /-- An address of eight groups. -/
  | ipv6
  /-- A pattern. -/
  | regex
  /-- A URI. -/
  | uri
  /-- A URI reference. -/
  | uriReference
  /-- A URI in any script. -/
  | iri
  /-- A URI reference in any script. -/
  | iriReference
  /-- A URI with gaps to fill. -/
  | uriTemplate
  /-- A JSON pointer. -/
  | jsonPointer
  /-- A JSON pointer that starts further up. -/
  | relativeJsonPointer
  deriving DecidableEq

namespace Format

def all : List Format :=
  [dateTime, date, time, email, idnEmail, hostname, idnHostname, ipv4, ipv6, regex, uri,
    uriReference, iri, iriReference, uriTemplate, jsonPointer, relativeJsonPointer]

def name : Format → String
  | dateTime => "date-time"
  | date => "date"
  | time => "time"
  | email => "email"
  | idnEmail => "idn-email"
  | hostname => "hostname"
  | idnHostname => "idn-hostname"
  | ipv4 => "ipv4"
  | ipv6 => "ipv6"
  | regex => "regex"
  | uri => "uri"
  | uriReference => "uri-reference"
  | iri => "iri"
  | iriReference => "iri-reference"
  | uriTemplate => "uri-template"
  | jsonPointer => "json-pointer"
  | relativeJsonPointer => "relative-json-pointer"

/-- The first draft that knows a format. -/
def since : Format → Schema.Draft
  | jsonPointer | uriReference | uriTemplate => .draft6
  | idnHostname | iri | iriReference | relativeJsonPointer => .draft7
  | _ => .draft4

/-- The format of a name in a draft. From draft 2019-09 on a format says nothing. -/
def ofName? (d : Schema.Draft) (name : String) : Option Format :=
  if d.atLeast .draft2019 then none
  else all.find? fun f => f.name == name && d.atLeast f.since

/-- Whether a text is a JSON pointer. -/
def isPointer (cs : List Char) : Bool :=
  let rec escapesEnd : List Char → Bool
    | '~' :: c :: cs => (c == '0' || c == '1') && escapesEnd cs
    | ['~'] => false
    | _ :: cs => escapesEnd cs
    | [] => true
  (cs.isEmpty || cs.head? == some '/') && escapesEnd cs

/-- Whether a text is a JSON pointer that starts further up. -/
def isRelativePointer (cs : List Char) : Bool :=
  let digits := cs.takeWhile fun c => '0' ≤ c && c ≤ '9'
  let rest := cs.drop digits.length
  !digits.isEmpty && (digits == ['0'] || digits.head? != some '0')
    && (rest == ['#'] || isPointer rest)

/-- Whether a text is a reference, with a scheme if one is asked for. -/
def isReference (wide needsScheme : Bool) (cs : List Char) : Bool :=
  match Uri.Reference.parse wide cs with
  | .ok r => !needsScheme || r.scheme.isSome
  | .error _ => false

/-- Whether a text has a format. -/
def accepts (f : Format) (text : String) : Bool :=
  let cs := text.toList
  match f with
  | dateTime => isDateTime cs
  | date => isDate cs
  | time => isTime cs
  | email => isMailAddress isHostName cs
  | idnEmail => isMailAddress isInternationalHostName cs
  | hostname => isHostName cs
  | idnHostname => isInternationalHostName cs
  | ipv4 => Uri.isIPv4 cs
  | ipv6 => Uri.isIPv6 cs
  | regex => Pattern.isWellFormed text
  | uri => isReference false true cs
  | uriReference => isReference false false cs
  | iri => isReference true true cs
  | iriReference => isReference true false cs
  | uriTemplate => isTemplate cs none
  | jsonPointer => isPointer cs
  | relativeJsonPointer => isRelativePointer cs

end Format

end DocCheck
