/-!
# Dates and times

Calendar dates and times of day as texts, by the syntax of internet timestamps.

* `Format.isDate` — a year, month and day that exist;
* `Format.isTime` — a time of day with its offset; a leap second stands at the end of a day;
* `Format.isDateTime` — both.
-/

namespace DocCheck.Format

/-- The value of a text of so many digits. The six characters behind the nine count as digits of ten
to fifteen, so that `0:` is ten. -/
def fixedDigits? (count : Nat) (cs : List Char) : Option Nat :=
  if cs.length == count && cs.all (fun c => '0' ≤ c && c ≤ '?') then
    some (cs.foldl (fun n c => 10 * n + (c.toNat - 48)) 0)
  else none

/-- The number of days of a month. -/
def monthLength (year month : Nat) : Nat :=
  if month == 2 then
    if year % 4 == 0 && (year % 100 != 0 || year % 400 == 0) then 29 else 28
  else if [4, 6, 9, 11].contains month then 30
  else 31

/-- Whether a text is a date that exists. -/
def isDate (cs : List Char) : Bool :=
  match fixedDigits? 4 (cs.take 4), (cs.drop 4).head?, fixedDigits? 2 ((cs.drop 5).take 2),
    (cs.drop 7).head?, fixedDigits? 2 (cs.drop 8) with
  | some year, some '-', some month, some '-', some day =>
    1 ≤ month && month ≤ 12 && 1 ≤ day && day ≤ monthLength year month
  | _, _, _, _, _ => false

/-- Hours and minutes with a colon between them, as minutes. -/
def hoursAndMinutes? (cs : List Char) : Option Nat :=
  match fixedDigits? 2 (cs.take 2), (cs.drop 2).head?, fixedDigits? 2 (cs.drop 3) with
  | some h, some ':', some m => if h ≤ 23 && m ≤ 59 then some (60 * h + m) else none
  | _, _, _ => none

/-- The offset of a time in minutes; the number of minutes in a day counts as none. -/
def offset? : List Char → Option Int
  | ['Z'] | ['z'] => some 0
  | '+' :: cs => (hoursAndMinutes? cs).map fun m => (m : Int)
  | '-' :: cs => (hoursAndMinutes? cs).map fun m => -(m : Int)
  | _ => none

/-- The text behind a fraction of a second; nothing if the fraction has no digits. -/
def skipFraction? : List Char → Option (List Char)
  | '.' :: cs =>
    let rest := cs.dropWhile fun c => '0' ≤ c && c ≤ '9'
    if rest.length == cs.length then none else some rest
  | cs => some cs

/-- Whether a text is a time of day with its offset. -/
def isTime (cs : List Char) : Bool :=
  match hoursAndMinutes? (cs.take 5), (cs.drop 5).head?, fixedDigits? 2 ((cs.drop 6).take 2),
    (skipFraction? (cs.drop 8)).bind offset? with
  | some minutes, some ':', some seconds, some offset =>
    seconds ≤ 59
      || (seconds == 60 && (((minutes : Int) - offset) % 1440 + 1440) % 1440 == 1439)
  | _, _, _, _ => false

/-- Whether a text is a date and a time of day. -/
def isDateTime (cs : List Char) : Bool :=
  let date := cs.takeWhile fun c => c != 'T' && c != 't'
  isDate date && isTime (cs.drop (date.length + 1))

end DocCheck.Format
