import DocCheck.Yaml.Source

/-!
# Faults of YAML syntax

What can be wrong with the form of a YAML text, what was being read at the time, and how both are
worded with their places. The first character of a text is never named as a place.

* `Problem`, `Context` — the faults, and what was being read;
* `SyntaxError`, `SyntaxError.message` — a fault with its places, and its wording.
-/

namespace DocCheck.Yaml

/-- What is wrong with the form of a text. -/
inductive Problem where
  /-- A character that no YAML text may hold. -/
  | controlCharacter
  /-- A character with which no token starts. -/
  | badStart
  /-- A key without its colon. -/
  | missingColon
  /-- A list entry where none may start. -/
  | entryNotAllowed
  /-- A key where none may start. -/
  | keyNotAllowed
  /-- A value where none may start. -/
  | valueNotAllowed
  /-- A directive of no known name. -/
  | unknownDirective
  /-- A directive without a name. -/
  | missingDirectiveName
  /-- A directive's name goes on with something else. -/
  | badDirectiveName
  /-- Something other than a comment behind a directive or a block scalar's header. -/
  | missingLineBreak
  /-- A version without its point. -/
  | missingVersionPoint
  /-- A version number of too many digits. -/
  | longVersion
  /-- A version without a number. -/
  | missingVersion
  /-- No blank where one is needed. -/
  | missingBlank
  /-- Neither blank nor line break where one is needed. -/
  | missingBlankOrBreak
  /-- An anchor or alias without a name, or with something behind it. -/
  | badAnchor
  /-- A verbatim tag that is not closed. -/
  | missingTagEnd
  /-- A tag that names nothing. -/
  | missingTagUri
  /-- A tag handle without its exclamation mark. -/
  | missingTagMark
  /-- A percent sign without two hexadecimal digits. -/
  | badTagEscape
  /-- A first byte that starts no character. -/
  | badLeadingOctet
  /-- A further byte that continues no character. -/
  | badTrailingOctet
  /-- A block scalar indented by nothing. -/
  | zeroIndentation
  /-- A tab among the blanks that indent a block scalar. -/
  | tabInIndentation
  /-- A document indicator inside quotes. -/
  | indicatorInQuotes
  /-- The text ends inside quotes. -/
  | unclosedQuotes
  /-- An escape that YAML does not have. -/
  | unknownEscape
  /-- An escape by number without its digits. -/
  | badHexEscape
  /-- An escape by number that names no character. -/
  | badCodePoint
  /-- A colon inside a plain scalar of a flow collection. -/
  | colonInPlain
  /-- A tab where a plain scalar goes on. -/
  | tabInPlain
  /-- A stream without start. -/
  | missingStreamStart
  /-- Directives without a document. -/
  | missingDocumentStart
  /-- No node where one is needed. -/
  | missingNode
  /-- A list without its next entry. -/
  | missingEntry
  /-- A mapping without its next key. -/
  | missingKey
  /-- A flow list that neither goes on nor ends. -/
  | missingCommaOrBracket
  /-- A flow mapping that neither goes on nor ends. -/
  | missingCommaOrBrace
  /-- Two version directives. -/
  | duplicateVersion
  /-- A version other than the first. -/
  | incompatibleVersion
  /-- Two directives for one tag handle. -/
  | duplicateTagDirective
  /-- A tag handle for which there is no directive. -/
  | undefinedTagHandle
  deriving DecidableEq

namespace Problem

def message : Problem → String
  | controlCharacter => "control characters are not allowed"
  | badStart => "found character that cannot start any token"
  | missingColon => "could not find expected ':'"
  | entryNotAllowed => "block sequence entries are not allowed in this context"
  | keyNotAllowed => "mapping keys are not allowed in this context"
  | valueNotAllowed => "mapping values are not allowed in this context"
  | unknownDirective => "found unknown directive name"
  | missingDirectiveName => "could not find expected directive name"
  | badDirectiveName => "found unexpected non-alphabetical character"
  | missingLineBreak => "did not find expected comment or line break"
  | missingVersionPoint => "did not find expected digit or '.' character"
  | longVersion => "found extremely long version number"
  | missingVersion => "did not find expected version number"
  | missingBlank => "did not find expected whitespace"
  | missingBlankOrBreak => "did not find expected whitespace or line break"
  | badAnchor => "did not find expected alphabetic or numeric character"
  | missingTagEnd => "did not find the expected '>'"
  | missingTagUri => "did not find expected tag URI"
  | missingTagMark => "did not find expected '!'"
  | badTagEscape => "did not find URI escaped octet"
  | badLeadingOctet => "found an incorrect leading UTF-8 octet"
  | badTrailingOctet => "found an incorrect trailing UTF-8 octet"
  | zeroIndentation => "found an indentation indicator equal to 0"
  | tabInIndentation => "found a tab character where an indentation space is expected"
  | indicatorInQuotes => "found unexpected document indicator"
  | unclosedQuotes => "found unexpected end of stream"
  | unknownEscape => "found unknown escape character"
  | badHexEscape => "did not find expected hexadecimal number"
  | badCodePoint => "found invalid Unicode character escape code"
  | colonInPlain => "found unexpected ':'"
  | tabInPlain => "found a tab character that violates indentation"
  | missingStreamStart => "did not find expected <stream-start>"
  | missingDocumentStart => "did not find expected <document start>"
  | missingNode => "did not find expected node content"
  | missingEntry => "did not find expected '-' indicator"
  | missingKey => "did not find expected key"
  | missingCommaOrBracket => "did not find expected ',' or ']'"
  | missingCommaOrBrace => "did not find expected ',' or '\x7d'"
  | duplicateVersion => "found duplicate %YAML directive"
  | incompatibleVersion => "found incompatible YAML document"
  | duplicateTagDirective => "found duplicate %TAG directive"
  | undefinedTagHandle => "found undefined tag handle"

end Problem

/-- What was being read when a fault was met. -/
inductive Context where
  /-- A key that has to be one. -/
  | simpleKey
  /-- The start of a token. -/
  | nextToken
  /-- A directive. -/
  | directive
  /-- A version directive. -/
  | versionDirective
  /-- A tag directive. -/
  | tagDirective
  /-- The handle of a tag directive. -/
  | tagDirectiveHandle
  /-- The end of the handle of a tag directive. -/
  | tagDirectiveHandleEnd
  /-- The prefix of a tag directive. -/
  | tagDirectiveUri
  /-- An anchor. -/
  | anchor
  /-- An alias. -/
  | aliasName
  /-- A tag. -/
  | tag
  /-- The name in a tag. -/
  | tagUri
  /-- A block scalar. -/
  | blockScalar
  /-- A quoted scalar. -/
  | quotedScalar
  /-- An escape in a quoted scalar. -/
  | quotedEscape
  /-- A plain scalar. -/
  | plainScalar
  /-- A node and its tag. -/
  | node
  /-- A node in block style. -/
  | blockNode
  /-- A node in flow style. -/
  | flowNode
  /-- A list in block style. -/
  | blockCollection
  /-- A mapping in block style. -/
  | blockMapping
  /-- A list in flow style. -/
  | flowSequence
  /-- A mapping in flow style. -/
  | flowMapping
  deriving DecidableEq

namespace Context

def message : Context → String
  | simpleKey => "while scanning a simple key"
  | nextToken => "while scanning for the next token"
  | directive => "while scanning a directive"
  | versionDirective => "while scanning a %YAML directive"
  | tagDirective => "while scanning a %TAG directive"
  | tagDirectiveHandle => "while scanning a tag directive"
  | tagDirectiveHandleEnd => "while parsing a tag directive"
  | tagDirectiveUri => "while parsing a %TAG directive"
  | anchor => "while scanning an anchor"
  | aliasName => "while scanning an alias"
  | tag => "while scanning a tag"
  | tagUri => "while parsing a tag"
  | blockScalar => "while scanning a block scalar"
  | quotedScalar => "while scanning a quoted scalar"
  | quotedEscape => "while parsing a quoted scalar"
  | plainScalar => "while scanning a plain scalar"
  | node => "while parsing a node"
  | blockNode => "while parsing a block node"
  | flowNode => "while parsing a flow node"
  | blockCollection => "while parsing a block collection"
  | blockMapping => "while parsing a block mapping"
  | flowSequence => "while parsing a flow sequence"
  | flowMapping => "while parsing a flow mapping"

end Context

/-- A fault of syntax and where it is. -/
structure SyntaxError where
  /-- What is wrong. -/
  problem : Problem
  /-- Where. -/
  place : Mark
  /-- What was being read, and where that starts. -/
  context : Option (Context × Mark)
  /-- For a character that no text may hold, how many bytes stand before it. -/
  bytes : Nat
  deriving DecidableEq

namespace SyntaxError

def bare (problem : Problem) (place : Mark) : SyntaxError := ⟨problem, place, none, 0⟩

/-- A fault met while something that starts at `start` was being read. -/
def within (context : Context) (start : Mark) (problem : Problem) (place : Mark) : SyntaxError :=
  ⟨problem, place, some (context, start), 0⟩

/-- The wording of an error. The place of the context is left out where it is the place of the
fault. -/
def message (e : SyntaxError) : String :=
  let place :=
    if !e.place.isStart then " at " ++ e.place.message
    else if e.bytes != 0 then " at position " ++ toString e.bytes
    else ""
  let context :=
    match e.context with
    | none => ""
    | some (c, start) =>
      ", " ++ c.message
        ++ (if start.isStart || start.samePlace e.place then "" else " at " ++ start.message)
  e.problem.message ++ place ++ context

end SyntaxError

end DocCheck.Yaml
