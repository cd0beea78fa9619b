import DocCheck.Pattern.Expr
import DocCheck.Pattern.Machine

/-!
# Compiling pattern expressions

The program of an expression. Parts that are regular patterns are left to automata where nothing
behind them could make them take another piece: where they end what is looked for, and where all
their pieces have one length.

* `Emitter` — a part of a program, wherever it stands;
* `Machine.ofExpr?` — the program of an expression.
-/

namespace DocCheck.Pattern

/-- A part of a program as a function of its address and of the number of slots in use before it:
the instructions, and the number of slots in use behind it. -/
abbrev Emitter := Nat → Nat → Option (List Order × Nat)

namespace Emitter

def orders (code : List Order) : Emitter := fun _ slots => some (code, slots)

def inTurn : List Emitter → Emitter
  | [] => orders []
  | e :: es => fun address slots => do
    let (first, slots) ← e address slots
    let (rest, slots) ← inTurn es (address + first.length) slots
    return (first ++ rest, slots)

/-- Parts to be tried one after the other. -/
def alternatives : List Emitter → Emitter
  | [] => orders []
  | [e] => e
  | e :: es => fun address slots => do
    let (first, slots) ← e (address + 1) slots
    let other := address + first.length + 2
    let (rest, slots) ← alternatives es other slots
    return (.fork (address + 1) other :: first ++ Order.jump (other + rest.length) :: rest, slots)

/-- A fork that prefers to go on, or one that prefers to leave. -/
def prefer (greedy : Bool) (inside outside : Nat) : Order :=
  if greedy then .fork inside outside else .fork outside inside

/-- A part that may be left out. -/
def optional (part : Emitter) (greedy : Bool) : Emitter := fun address slots => do
  let (code, slots) ← part (address + 1) slots
  return (prefer greedy (address + 1) (address + code.length + 1) :: code, slots)

/-- A part any number of times; it is never empty. -/
def star (part : Emitter) (greedy : Bool) : Emitter := fun address slots => do
  let (code, slots) ← part (address + 1) slots
  return (prefer greedy (address + 1) (address + code.length + 2) :: code ++ [.jump address], slots)

/-- A part once or more; it is never empty. -/
def plus (part : Emitter) (greedy : Bool) : Emitter := fun address slots => do
  let (code, slots) ← part address slots
  return (code ++ [prefer greedy address (address + code.length + 1)], slots)

def counted (part : Emitter) (least : Nat) (most : Option Nat) (greedy : Bool) : Emitter :=
  fun address counter => do
    let (code, slots) ← part (address + 2) (counter + 1)
    let behind := address + code.length + 3
    return (.clear counter :: .again least most behind counter greedy :: code
      ++ [.jump (address + 1)], slots)

/-- A part that may be empty at least so many times. -/
def countedNonempty (part : Emitter) (least : Nat) (greedy : Bool) : Emitter :=
  fun address counter => do
    let (code, slots) ← part (address + 2) (counter + 2)
    let behind := address + code.length + 3
    return (.clear counter :: .againNonempty least behind counter (counter + 1) greedy :: code
      ++ [.jump (address + 1)], slots)

def loop (part : Emitter) (mayBeEmpty : Bool) (least : Nat) (most : Option Nat) (greedy : Bool) :
    Emitter :=
  match least, most with
  | least, none =>
    if mayBeEmpty then countedNonempty part least greedy
    else if least == 0 then star part greedy
    else if least == 1 then plus part greedy
    else counted part least none greedy
  | least, some most => counted part least (some most) greedy

/-- Goes back to where it began behind a part. -/
def inPlace (part : Emitter) : Emitter := fun address slot => do
  let (code, slots) ← part (address + 1) (slot + 1)
  return (.save slot :: code ++ [.restore slot], slots)

/-- Goes on only where a part fails. -/
def refuse (part : Emitter) : Emitter := fun address slots => do
  let (code, slots) ← part (address + 1) slots
  return (.fork (address + 1) (address + code.length + 2) :: code ++ [.forbid], slots)

def look (part : Emitter) (expected : Bool) : Emitter :=
  if expected then inPlace part else refuse part

/-- A part that is never taken up again. -/
def atomic (part : Emitter) : Emitter :=
  inTurn [orders [.beginAtomic], part, orders [.endAtomic]]

/-- One of two parts, by whether a first one is found. -/
def choice (condition yes no : Emitter) : Emitter := fun address slots => do
  let (first, slots) ← condition (address + 2) slots
  let inYes := address + first.length + 3
  let (second, slots) ← yes inYes slots
  let inNo := inYes + second.length + 1
  let (third, slots) ← no inNo slots
  return (.beginAtomic :: .fork (address + 2) inNo :: first ++ Order.endAtomic :: second
    ++ Order.jump (inNo + third.length) :: third, slots)

end Emitter

namespace Machine

mutual

/-- The characters of an expression that is nothing but characters. -/
def literal? : Expr → Option (List Char)
  | .literal c false => some [c]
  | .sequence parts => literals? parts
  | _ => none
  termination_by structural e => e

/-- The characters of expressions in a row. -/
def literals? : List Expr → Option (List Char)
  | [] => some []
  | e :: es =>
    match literal? e, literals? es with
    | some cs, some more => some (cs ++ more)
    | _, _ => none
  termination_by structural es => es

end

/-- The automaton of expressions in a row, unless it is too large; so many groups have begun before
them. -/
def automaton? (begun : Nat) (parts : List Expr) : Option Automaton :=
  if Expr.greatestDepth < Expr.depths .alternative parts + 1 then none
  else
    (Expr.regulars? begun parts).bind fun rs =>
      let r := Regular.inTurn rs
      if r.isTooLarge then none else some (.ofRegular r)

/-- One instruction for expressions in a row that are not hard. -/
def piece (begun : Nat) (parts : List Expr) : Emitter := fun _ slots =>
  if parts.isEmpty then some ([], slots)
  else
    match literals? parts with
    | some cs => some ([.text cs], slots)
    | none => (automaton? begun parts).map fun a =>
        ([.piece a begun (Expr.groupCounts parts)], slots)

/-- For each of some expressions in a row whether an automaton may stand for it wherever it is, and
whether it may do so at the end of what is looked for. -/
def areFixed (references : List Nat) (begun : Nat) : List Expr → List (Bool × Bool)
  | [] => []
  | e :: es =>
    let easy := !e.isHard references begun
    (easy && e.hasOneLength, easy) :: areFixed references (begun + e.groupCount) es

/-- Expressions in a row. Automata stand for the first ones and the last ones, as far as they may;
`last` says whether the row ends what is looked for. -/
def row (references : List Nat) (begun : Nat) (last : Bool) (parts : List Expr)
    (emitters : List Emitter) : Emitter :=
  let fixed := areFixed references begun parts
  let before := (fixed.takeWhile Prod.fst).length
  let behind :=
    ((fixed.drop before).reverse.takeWhile fun f => if last then f.2 else f.1).length
  let rest := parts.length - behind
  .inTurn (piece begun (parts.take before) :: ((emitters.take rest).drop before)
    ++ [piece (begun + Expr.groupCounts (parts.take rest)) (parts.drop rest)])

/-- What is looked for: a look behind first goes back by the length of its pieces, of which they may
have one only. -/
def lookFor (ahead : Bool) (part : Expr) (emitter : Emitter) : Emitter :=
  if ahead then emitter
  else if part.hasOneLength then .inTurn [.orders [.back part.leastLength], emitter]
  else fun _ _ => none

/-- A look. Alternatives that differ in length are looked for one by one where it goes behind. -/
def lookOf (ahead expected : Bool) (part : Expr) (emitter : Emitter) (branches : List Emitter) :
    Emitter :=
  match part with
  | .alternatives parts =>
    if !ahead && !part.hasOneLength then
      let looks := (parts.zip branches).map fun (p, e) => Emitter.look (lookFor false p e) expected
      if expected then .alternatives looks else .inTurn looks
    else .look (lookFor ahead part emitter) expected
  | _ => .look (lookFor ahead part emitter) expected

mutual

/-- The program of an expression. The flag says that something behind it may fail, so that it must
be possible to take it back. -/
def emit (references : List Nat) (begun : Nat) (hard : Bool) : Expr → Emitter
  | .empty => if hard then .orders [] else piece begun [.empty]
  | .any lineFeed =>
    if hard then .orders [if lineFeed then .any else .anyInLine] else piece begun [.any lineFeed]
  | .place p =>
    if hard || p.isOfWords then .orders [.check p] else piece begun [.place p]
  | .literal c caseless => piece begun [.literal c caseless]
  | .set s depth => piece begun [.set s depth]
  | .sequence parts =>
    if hard || Expr.areHard references begun parts then
      row references begun (!hard) parts (emitEach references begun true parts)
    else piece begun [.sequence parts]
  | .alternatives parts =>
    if hard || Expr.areHard references begun parts then
      .alternatives (emitEach references begun hard parts)
    else piece begun [.alternatives parts]
  | .group part =>
    if hard || part.isHard references (begun + 1) || references.contains begun then
      .inTurn [.orders [.save (2 * begun)], emit references (begun + 1) hard part,
        .orders [.save (2 * begun + 1)]]
    else piece begun [.group part]
  | .look part ahead expected =>
    lookOf ahead expected part (emit references begun false part)
      (emitBranches references begun part)
  | .loop part least most greedy =>
    if hard || part.isHard references begun then
      if least == 0 && most == some 1 then .optional (emit references begun hard part) greedy
      else .loop (emit references begun true part) (part.leastLength == 0) least most greedy
    else piece begun [.loop part least most greedy]
  | .reference n => .orders [.reference (2 * n)]
  | .kept n => .orders [.kept (2 * n)]
  | .atomic part => .atomic (emit references begun false part)
  | .keepOut => .orders [.save 0]
  | .searchStart => .orders [.checkStart]
  | .choice condition yes no =>
    let inYes := begun + condition.groupCount
    .choice (emit references begun hard condition) (emit references inYes hard yes)
      (emit references (inYes + yes.groupCount) hard no)
  termination_by structural e => e

/-- The programs of expressions in a row, one by one. -/
def emitEach (references : List Nat) (begun : Nat) (hard : Bool) : List Expr → List Emitter
  | [] => []
  | e :: es =>
    emit references begun hard e :: emitEach references (begun + e.groupCount) hard es
  termination_by structural es => es

/-- The programs of alternatives that end what is looked for. -/
def emitBranches (references : List Nat) (begun : Nat) : Expr → List Emitter
  | .alternatives parts => emitEach references begun false parts
  | _ => []
  termination_by structural e => e

end

/-- Looks for an expression at every place, from the first one on. -/
def search (e : Expr) : Emitter :=
  .inTurn [.star (.orders [.any]) false, .orders [.save 0], emit e.references 1 true e,
    .orders [.save 1, .accept]]

/-- The program of an expression. Its parts that are left to automata must not be too large, and
what is looked for behind must have one length. -/
def ofExpr? (e : Expr) : Option Machine :=
  (search e 0 (2 * (e.groupCount + 1))).map fun (code, slots) => ⟨code.toArray, slots⟩

end Machine

end DocCheck.Pattern
