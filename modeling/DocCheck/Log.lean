import DocCheck.Log.Directive

/-!
# Logs

Which events of a run are shown. A filter is a list of directives, each a level for some events. Of
all directives for an event the most specific one counts; where there is none nothing is shown.

* `Log.Filter.ofVerbosity` — the filter that the command line asks for;
* `Log.Filter.parse` — the filter that the environment asks for;
* `Log.Filter.allows` — whether an event is shown.
-/

namespace DocCheck.Log

/-- A filter: directives in the order in which they were given. -/
structure Filter where
  directives : List Directive
  deriving DecidableEq

/-- The environment variable with the filter. -/
def variableName : String := "RUST_LOG"

namespace Filter

/-- The filter that shows a level and everything more important. -/
def ofLevel (l : Level) : Filter := ⟨[{ Directive.everything with rank := l.rank }]⟩

/-- The filter that the command line asks for. -/
def ofVerbosity : Nat → Filter
  | 0 => ofLevel .warn
  | 1 => ofLevel .info
  | 2 => ofLevel .debug
  | _ => ofLevel .trace

/-- The filter of a text: directives with commas between them, or errors only if there are none. -/
def parse (text : String) : Option Filter :=
  let parts := (Path.segments ',' text.toList).filter fun p => !p.isEmpty
  -- An empty filter is a filter all the same.
  if parts.isEmpty then some (ofLevel .error)
  else (parts.mapM Directive.parse).map fun ds => ⟨ds.filter Directive.isForEvents⟩

/-- The filter of a run: the one from the environment, if that is well formed. -/
def choose (setting : Option String) (verbosity : Nat) : Filter :=
  (setting.bind parse).getD (ofVerbosity verbosity)

/-- Of two directives for an event the one that counts. -/
def prefer (found : Option Directive) (d : Directive) : Option Directive :=
  match found with
  | none => some d
  | some f => if f.yieldsTo d then some d else some f

def allows (f : Filter) (e : Event) : Bool :=
  let applying := f.directives.filter fun d => d.isFor e
  (applying.foldl prefer none).any fun d => e.level.rank ≤ d.rank

def lines (f : Filter) (events : List Event) : List String :=
  (events.filter f.allows).map Event.text

end Filter

end DocCheck.Log
