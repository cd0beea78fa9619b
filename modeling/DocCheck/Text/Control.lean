/-!
# Control sequences

What a terminal would print of a text: a sequence that starts with an escape is an order to the
terminal and prints nothing, and neither does any other control character but the blank ones. A
sequence without an end takes in what follows it, up to the next escape.

* `Text.SequenceState` — where in a sequence a reader is;
* `Text.withoutSequences` — a text without its control sequences.
-/

namespace DocCheck.Text

/-- Where in a control sequence a reader is. -/
inductive SequenceState where
  /-- In none. -/
  | outside
  /-- Behind the escape. -/
  | escape
  /-- Behind an escape and signs that need one more character. -/
  | signs
  /-- Among the numbers of an order, which a letter ends. -/
  | order
  /-- At the start of the head of a message to the device. -/
  | head
  /-- Among the numbers of such a head. -/
  | headNumbers
  /-- Among the signs of such a head. -/
  | headSigns
  /-- In a message. -/
  | message
  /-- In a message that a bell ends. -/
  | title
  deriving DecidableEq

namespace SequenceState

/-- Whether a character without an effect of its own is printed here. -/
def printsBlanks : SequenceState → Bool
  | outside | escape | signs | order => true
  | head | headNumbers | headSigns | message | title => false

/-- The state behind an escape and a character of its own. -/
def afterEscape (c : Char) : SequenceState :=
  if ' ' ≤ c && c ≤ '/' then signs
  else if c = '[' then order
  else if c = ']' then title
  else if c = 'P' then head
  else if c = 'X' || c = '^' || c = '_' then message
  else if '0' ≤ c && c ≤ '~' then outside
  else escape

/-- The state in the head of a message behind a character; signs and numbers start the parts that
are given. -/
def inHead (here onSign onNumber onMark : SequenceState) (c : Char) : SequenceState :=
  if ' ' ≤ c && c ≤ '/' then onSign
  else if '0' ≤ c && c ≤ ';' then onNumber
  else if '<' ≤ c && c ≤ '?' then onMark
  else if '@' ≤ c && c ≤ '~' then message
  else here

/-- Whether the code of a character ends a message: the byte 0x9C is in it. -/
def endsMessage (c : Char) : Bool := (c.toString.toUTF8.toList).contains 0x9C

def next (s : SequenceState) (c : Char) : SequenceState :=
  if c = '\x1b' then escape
  else if c = '\x18' || c = '\x1a' then outside
  else
    match s with
    | outside => outside
    | escape => afterEscape c
    | signs => if '0' ≤ c && c ≤ '~' then outside else signs
    | order => if '@' ≤ c && c ≤ '~' then outside else order
    | head => inHead head headSigns headNumbers headNumbers c
    | headNumbers => inHead headNumbers headSigns headNumbers message c
    | headSigns => inHead headSigns headSigns message message c
    | message => if endsMessage c then outside else message
    | title => if c = '\x07' then outside else title

def prints (s : SequenceState) (c : Char) : Bool :=
  if c = '\t' || c = '\n' || c = '\x0c' || c = '\r' then s.printsBlanks
  else s == outside && ' ' ≤ c && c != '\x7f'

end SequenceState

/-- What is printed of characters, from a state on. -/
def printedFrom : SequenceState → List Char → List Char
  | _, [] => []
  | s, c :: cs => if s.prints c then c :: printedFrom (s.next c) cs else printedFrom (s.next c) cs

/-- A text without its control sequences. -/
def withoutSequences (text : String) : String := String.ofList (printedFrom .outside text.toList)

end DocCheck.Text
