/-!
# Coloured text

Text for terminals: a style is switched on before the text and everything is switched off behind
it. Where the text itself switches styles off, its own style is switched on again.

* `Paint` — the styles in use;
* `Paint.apply` — a text in a style.
-/

namespace DocCheck

/-- The styles in use. -/
inductive Paint where
  /-- For good news. -/
  | green
  /-- For bad news. -/
  | red
  /-- For names of files. -/
  | bold
  /-- For the word that announces an error. -/
  | boldRed
  deriving DecidableEq

namespace Paint

/-- The sequence that switches a style on. -/
def start : Paint → List Char
  | green => "\x1b[32m".toList
  | red => "\x1b[31m".toList
  | bold => "\x1b[1m".toList
  | boldRed => "\x1b[1;31m".toList

/-- The sequence that switches all styles off. -/
def stop : List Char := ['\x1b', '[', '0', 'm']

/-- Switches the style on again wherever the text switches it off. -/
def restart (p : Paint) : List Char → List Char
  | '\x1b' :: '[' :: '0' :: 'm' :: rest => stop ++ p.start ++ restart p rest
  | c :: rest => c :: restart p rest
  | [] => []

/-- The text in this style, or the bare text where colours are not wanted. -/
def apply (p : Paint) (colour : Bool) (text : String) : String :=
  if colour then String.ofList (p.start ++ p.restart text.toList ++ stop) else text

end Paint

end DocCheck
