import DocCheck.Character.Fold
import DocCheck.Pattern.Regular

/-!
# Pattern expressions

A pattern expression is what a pattern says, with looks, references back to groups and groups that
are never taken up again. Where it says nothing of these it is a regular pattern.

* `Expr` — the expressions;
* `Expr.isHard` — the expressions that are no regular patterns;
* `Expr.leastLength`, `Expr.hasOneLength` — how many characters a piece has;
* `Expr.regular?` — the regular pattern of an expression.
-/

namespace DocCheck.Pattern

/-- A pattern expression. Groups are numbered in the order in which they begin, from one on. -/
inductive Expr where
  /-- The empty piece. -/
  | empty
  /-- Any character, or any but a line feed. -/
  | any (lineFeed : Bool)
  /-- The empty piece at such a place. -/
  | place (p : Place)
  /-- A character, or one that differs from it in case only. -/
  | literal (c : Char) (caseless : Bool)
  /-- A character of a set, which was written with brackets this deep in one another. -/
  | set (s : CharSet) (depth : Nat)
  /-- Parts in a row. -/
  | sequence (parts : List Expr)
  /-- Alternatives. -/
  | alternatives (parts : List Expr)
  /-- A piece that is kept under the next number. -/
  | group (part : Expr)
  /-- The empty piece, if a piece starts or ends here, or if none does. -/
  | look (part : Expr) (ahead expected : Bool)
  /-- So many pieces in a row, as many as can be or as few as can be. -/
  | loop (part : Expr) (least : Nat) (most : Option Nat) (greedy : Bool)
  /-- The same characters as the piece of a group. -/
  | reference (group : Nat)
  /-- The empty piece, if a group has one. -/
  | kept (group : Nat)
  /-- The first piece that is found; no other one is tried. -/
  | atomic (part : Expr)
  /-- The empty piece; what is before it does not count as matched. -/
  | keepOut
  /-- The empty piece where the search began. -/
  | searchStart
  /-- One of two expressions, by whether there is a piece of a first one. -/
  | choice (condition yes no : Expr)
  deriving Inhabited

namespace Expr

/-- Whether an expression is the empty one. -/
def isEmpty : Expr → Bool
  | empty => true
  | _ => false

/-! ### Groups -/

mutual

/-- The number of groups in an expression. -/
def groupCount : Expr → Nat
  | sequence parts | alternatives parts => groupCounts parts
  | group part => part.groupCount + 1
  | look part _ _ | loop part _ _ _ | atomic part => part.groupCount
  | choice condition yes no => condition.groupCount + yes.groupCount + no.groupCount
  | _ => 0
  termination_by structural e => e

/-- The number of groups in some expressions. -/
def groupCounts : List Expr → Nat
  | [] => 0
  | e :: es => e.groupCount + groupCounts es
  termination_by structural es => es

end

mutual

/-- Whether every reference is to a group that has begun before it; so many have begun before the
expression. -/
def refersBack (begun : Nat) : Expr → Bool
  | sequence parts | alternatives parts => allReferBack begun parts
  | group part => part.refersBack (begun + 1)
  | look part _ _ | loop part _ _ _ | atomic part => part.refersBack begun
  | reference n | kept n => n < begun
  | choice condition yes no =>
    let inYes := begun + condition.groupCount
    condition.refersBack begun && yes.refersBack inYes && no.refersBack (inYes + yes.groupCount)
  | _ => true
  termination_by structural e => e

/-- `refersBack` of expressions in a row. -/
def allReferBack (begun : Nat) : List Expr → Bool
  | [] => true
  | e :: es => e.refersBack begun && allReferBack (begun + e.groupCount) es
  termination_by structural es => es

end

/-! ### Lengths -/

mutual

/-- The least number of characters in a piece, going by the form of the expression. -/
def leastLength : Expr → Nat
  | any _ | literal _ _ | set _ _ => 1
  | sequence parts => totalLength parts
  | alternatives parts => (leastOfAll parts).getD 0
  | group part | atomic part => part.leastLength
  | loop part least _ _ => part.leastLength * least
  | choice condition yes no => condition.leastLength + min yes.leastLength no.leastLength
  | _ => 0
  termination_by structural e => e

/-- The sum of the least numbers. -/
def totalLength : List Expr → Nat
  | [] => 0
  | e :: es => e.leastLength + totalLength es
  termination_by structural es => es

/-- The least of the least numbers. -/
def leastOfAll : List Expr → Option Nat
  | [] => none
  | e :: es => some ((leastOfAll es).elim e.leastLength (min e.leastLength))
  termination_by structural es => es

end

mutual

/-- Whether all pieces have one number of characters, going by the form of the expression. -/
def hasOneLength : Expr → Bool
  | sequence parts => allHaveOneLength parts
  | alternatives parts => allHaveOneLength parts && haveEqualLengths none parts
  | group part | atomic part => part.hasOneLength
  | loop part least most _ => part.hasOneLength && most == some least
  | reference _ => false
  | choice condition yes no =>
    condition.hasOneLength && yes.hasOneLength && no.hasOneLength
      && condition.leastLength + yes.leastLength == no.leastLength
  | _ => true
  termination_by structural e => e

/-- `hasOneLength` of each expression. -/
def allHaveOneLength : List Expr → Bool
  | [] => true
  | e :: es => e.hasOneLength && allHaveOneLength es
  termination_by structural es => es

/-- Whether the least numbers are all equal, also to one before. -/
def haveEqualLengths (before : Option Nat) : List Expr → Bool
  | [] => true
  | e :: es =>
    before.all (· == e.leastLength) && haveEqualLengths (some e.leastLength) es
  termination_by structural es => es

end

/-! ### Hard expressions -/

mutual

/-- Whether an expression needs more than an automaton, or is better off without one: it looks,
refers back, chooses, is atomic, or speaks of words; or it is a group that a reference is to. So
many groups have begun before it. -/
def isHard (references : List Nat) (begun : Nat) : Expr → Bool
  | place p => p.isOfWords
  | sequence parts | alternatives parts => areHard references begun parts
  | group part => part.isHard references (begun + 1) || references.contains begun
  | loop part _ _ _ => part.isHard references begun
  | empty | any _ | literal _ _ | set _ _ => false
  | look _ _ _ | reference _ | kept _ | atomic _ | keepOut | searchStart | choice _ _ _ => true
  termination_by structural e => e

/-- Whether one of some expressions is hard. -/
def areHard (references : List Nat) (begun : Nat) : List Expr → Bool
  | [] => false
  | e :: es => e.isHard references begun || areHard references (begun + e.groupCount) es
  termination_by structural es => es

end

mutual

/-- The groups that are referred to. -/
def references : Expr → List Nat
  | sequence parts | alternatives parts => referencesOfAll parts
  | group part | look part _ _ | loop part _ _ _ | atomic part => part.references
  | reference n | kept n => [n]
  | choice condition yes no => condition.references ++ yes.references ++ no.references
  | _ => []
  termination_by structural e => e

/-- The groups that some expressions refer to. -/
def referencesOfAll : List Expr → List Nat
  | [] => []
  | e :: es => e.references ++ referencesOfAll es
  termination_by structural es => es

end

/-! ### Regular patterns -/

/-- The greatest number of repetitions in a regular pattern. -/
def greatestCount : Nat := 4294967295

/-- Whether a regular pattern can have these limits. -/
def areLimits (least : Nat) (most : Option Nat) : Bool :=
  least ≤ greatestCount && most.all fun m => least ≤ m && m ≤ greatestCount

mutual

/-- The regular pattern of an expression, if it has one; so many groups have begun before it. -/
def regular? (begun : Nat) : Expr → Option Regular
  | empty => some .empty
  | any lineFeed => some (.one (if lineFeed then .all else (CharSet.single '\n').compl))
  | place p => some (.place p)
  | literal c caseless =>
    some (.one (if caseless then (CharSet.single c).fold else .single c))
  | set s _ => some (.one s)
  | sequence parts => (regulars? begun parts).map Regular.inTurn
  | alternatives parts => (regulars? begun parts).map Regular.either
  | group part => (part.regular? (begun + 1)).map (.group begun)
  | loop part least most greedy =>
    if areLimits least most then
      (part.regular? begun).map fun r => .loop r least most greedy
    else none
  | _ => none
  termination_by structural e => e

/-- The regular patterns of expressions in a row. -/
def regulars? (begun : Nat) : List Expr → Option (List Regular)
  | [] => some []
  | e :: es =>
    match e.regular? begun, regulars? (begun + e.groupCount) es with
    | some r, some rs => some (r :: rs)
    | _, _ => none
  termination_by structural es => es

end

/-- How tightly the expression around another binds: not at all, as alternatives, as a sequence or
as a repetition. An expression that binds less tightly is written as a group of its own. -/
inductive Binding where
  /-- Nothing is around it. -/
  | none
  /-- It is an alternative. -/
  | alternative
  /-- It is a part of a sequence. -/
  | part
  /-- It is repeated. -/
  | repeated
  deriving DecidableEq

mutual

/-- How deep parts stand in one another where the expression is written out. -/
def depth (b : Binding) : Expr → Nat
  | any lineFeed => if lineFeed then 1 else 0
  | place p => if p.isOfLines then 1 else 0
  | literal _ caseless => if caseless then 1 else 0
  | set _ depth => depth
  | sequence parts =>
    depths .part parts + 1 + (if b == .part || b == .repeated then 1 else 0)
  | alternatives parts => depths .alternative parts + 1 + (if b == .none then 0 else 1)
  | group part => part.depth .none + 1
  | loop part _ _ _ => part.depth .repeated + 1 + (if b == .repeated then 1 else 0)
  | _ => 0
  termination_by structural e => e

/-- The greatest depth of some expressions. -/
def depths (b : Binding) : List Expr → Nat
  | [] => 0
  | e :: es => max (e.depth b) (depths b es)
  termination_by structural es => es

end

/-- How deep parts may stand in one another in a regular pattern. -/
def greatestDepth : Nat := 250

end Expr

end DocCheck.Pattern
