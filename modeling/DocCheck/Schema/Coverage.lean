/-!
# Coverage

Which members and items of a value a schema has looked at. It matters for the keywords that speak of
those that nothing has looked at.

* `Coverage` — members by name, items by index;
* `Coverage.union`, `Coverage.unions` — what any of some schemas has looked at.
-/

namespace DocCheck.Schema

/-- The members and items of a value that have been looked at. -/
structure Coverage where
  names : List String
  items : List Nat
  deriving DecidableEq

namespace Coverage

def nothing : Coverage := ⟨[], []⟩

def union (a b : Coverage) : Coverage := ⟨a.names ++ b.names, a.items ++ b.items⟩

def unions (cs : List Coverage) : Coverage := cs.foldr union nothing

def ofNames (names : List String) : Coverage := ⟨names, []⟩

def ofItems (items : List Nat) : Coverage := ⟨[], items⟩

end Coverage

end DocCheck.Schema
