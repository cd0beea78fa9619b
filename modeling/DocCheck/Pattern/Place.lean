import DocCheck.Character.Property

/-!
# Places in a text

A pattern may ask for a place instead of a character: an end of the text or of a line, or an edge of
a word.

* `Pattern.Place` — the conditions on places;
* `Pattern.Place.holds` — whether a place in a text satisfies one.
-/

namespace DocCheck.Pattern

/-- A condition on a place between two characters. -/
inductive Place where
  /-- The start of the text. -/
  | start
  /-- The end of the text. -/
  | finish
  /-- The start of a line. -/
  | lineStart
  /-- The end of a line. -/
  | lineFinish
  /-- The start or the end of a word. -/
  | wordEdge
  /-- Neither start nor end of a word. -/
  | noWordEdge
  /-- The start of a word. -/
  | wordStart
  /-- The end of a word. -/
  | wordFinish
  deriving DecidableEq

namespace Place

/-- Whether the character at an index belongs to a word. -/
def isWordAt (text : Array Char) (i : Nat) : Bool := text[i]?.any Character.word.mem

/-- Whether the character before an index belongs to a word. -/
def isWordBefore (text : Array Char) (i : Nat) : Bool := i != 0 && isWordAt text (i - 1)

/-- Whether a place satisfies a condition. -/
def holds (text : Array Char) (i : Nat) : Place → Bool
  | start => i == 0
  | finish => i == text.size
  | lineStart => i == 0 || text[i - 1]? == some '\n'
  | lineFinish => i == text.size || text[i]? == some '\n'
  | wordEdge => isWordBefore text i != isWordAt text i
  | noWordEdge => isWordBefore text i == isWordAt text i
  | wordStart => !isWordBefore text i && isWordAt text i
  | wordFinish => isWordBefore text i && !isWordAt text i

/-- Whether a condition speaks of words. -/
def isOfWords : Place → Bool
  | wordEdge | noWordEdge | wordStart | wordFinish => true
  | _ => false

/-- Whether a condition speaks of lines. -/
def isOfLines : Place → Bool
  | lineStart | lineFinish => true
  | _ => false

end Place

end DocCheck.Pattern
