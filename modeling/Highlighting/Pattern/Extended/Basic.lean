import Highlighting.Pattern.Regular.Automaton

/-!
Extended expressions: regular ones with look-around, backreferences, atomic groups,
conditionals, and marks for the start of the match and of the search.

An expression is *plain* if no part needs backtracking. Plain parts have an equal regular
expression, which `regular?` finds, and `measure` tells how long a match of an expression is.
-/
namespace Highlighting.Pattern

/-- A set takes `depth` levels of nesting to write. `backref` is the text that a group matched last,
`groupSet` holds if a group has matched, the reported match starts at `keepOut`, and `searchStart` is
the place where the search began. -/
inductive Extended where
  | empty
  | one (set : CharSet) (depth : Nat)
  | look (condition : Look)
  | group (index : Nat) (body : Extended)
  | seq (parts : List Extended)
  | alt (branches : List Extended)
  | many (body : Extended) (least : Nat) (most : Option Nat) (greedy : Bool)
  | ahead (negated : Bool) (body : Extended)
  | behind (negated : Bool) (body : Extended)
  | atomic (body : Extended)
  | backref (group : Nat)
  | groupSet (group : Nat)
  | cond (condition yes no : Extended)
  | keepOut
  | searchStart

namespace Extended

def isEmpty : Extended → Bool
  | empty => true
  | _ => false

def countLimit : Nat := UInt32.size

mutual

/-- The regular expression equal to a plain one; counts must be in order and below the limit. -/
def toRegular? : Extended → Option Regular
  | empty => some .empty
  | one set _ => some (.one set)
  | look condition => some (.look condition)
  | group index body => (toRegular? body).map (.group index)
  | seq parts => (toRegulars? parts).map .row
  | alt branches => (toRegulars? branches).map .ofBranches
  | many body least most greedy =>
    if least < countLimit && most.all fun most => least ≤ most && most < countLimit then
      (toRegular? body).map (.repeated · least most greedy)
    else none
  | _ => none

def toRegulars? : List Extended → Option (List Regular)
  | [] => some []
  | part :: rest =>
    (toRegular? part).bind fun first => (toRegulars? rest).map (first :: ·)

end

/-- How tightly an expression has to bind: it is all of a group, a branch, a part of a row, or what a
quantifier stands behind. -/
inductive Binding where
  | alone
  | branch
  | part
  | operand
  deriving DecidableEq

/-- The depth of what is written side by side; more than one item adds a level. -/
def rowDepth : List Nat → Nat
  | [] => 0
  | [only] => only
  | depths => 1 + depths.foldl max 0

mutual

/-- The depths of the items that a plain expression is written with. A group is put around it
where it would not bind tightly enough. -/
def itemDepths (binding : Binding) : Extended → List Nat
  | one _ depth => [depth]
  | look .lineStart | look .lineEnd => [1]
  | look _ => [0]
  | group _ body => [1 + rowDepth (itemDepths .alone body)]
  | seq parts =>
    let items := rowItemDepths parts
    if binding = .part || binding = .operand then [1 + rowDepth items] else items
  | alt branches =>
    let depth := 1 + (branchDepths branches).foldl max 0
    [if binding = .alone then depth else 1 + depth]
  | many body _ _ _ =>
    let depth := 1 + rowDepth (itemDepths .operand body)
    [if binding = .operand then 1 + depth else depth]
  | _ => []

def rowItemDepths : List Extended → List Nat
  | [] => []
  | part :: rest => itemDepths .part part ++ rowItemDepths rest

def branchDepths : List Extended → List Nat
  | [] => []
  | branch :: rest => rowDepth (itemDepths .branch branch) :: branchDepths rest

end

def maxDepth : Nat := 250

/-- A regular expression that is written with items of the given depths. It must not nest too
deep, nor be too large. -/
def checked? (depths : List Nat) (e : Regular) : Option Regular :=
  if rowDepth depths ≤ maxDepth && e.fits then some e else none

def regular? (e : Extended) : Option Regular :=
  (toRegular? e).bind (checked? (itemDepths .alone e))

def regularRow? (parts : List Extended) : Option Regular :=
  (toRegulars? parts).bind fun es =>
    checked? (parts.flatMap (itemDepths .branch)) (.row es)

/-- The least number of characters of a match, whether all matches have that number, and whether no
part needs backtracking. -/
structure Measure where
  least : Nat
  fixed : Bool
  plain : Bool

namespace Measure

def sequence (ms : List Measure) : Measure :=
  ⟨(ms.map (·.least)).foldl (· + ·) 0, ms.all (·.fixed), ms.all (·.plain)⟩

def alternation : List Measure → Measure
  | [] => ⟨0, true, true⟩
  | first :: rest => rest.foldl (fun m n =>
      ⟨min m.least n.least, m.fixed && n.fixed && m.least == n.least, m.plain && n.plain⟩) first

end Measure

mutual

def refers : Extended → Bool
  | backref _ | groupSet _ => true
  | empty | one .. | look _ | keepOut | searchStart => false
  | group _ body | many body _ _ _ | ahead _ body | behind _ body | atomic body => refers body
  | seq parts | alt parts => someRefers parts
  | cond condition yes no => refers condition || refers yes || refers no

def someRefers : List Extended → Bool
  | [] => false
  | part :: rest => refers part || someRefers rest

end

variable (retried : Nat → Bool)

mutual

/-- The measure of an expression, in which the groups that are `retried` need backtracking. -/
def measure : Extended → Measure
  | empty => ⟨0, true, true⟩
  | one .. => ⟨1, true, true⟩
  | look (.word ..) => ⟨0, true, false⟩
  | look _ => ⟨0, true, true⟩
  | group index body =>
    let m := measure body
    { m with plain := m.plain && !retried index }
  | seq parts => .sequence (measures parts)
  | alt branches => .alternation (measures branches)
  | many body least most _ =>
    let m := measure body
    let exact := most == some least || (most.isNone && least + 1 == UInt64.size)
    ⟨m.least * least, m.fixed && exact, m.plain⟩
  | ahead .. => ⟨0, true, false⟩
  | behind .. => ⟨0, true, false⟩
  | atomic body => { measure body with plain := false }
  | backref _ => ⟨0, false, false⟩
  | groupSet _ => ⟨0, true, false⟩
  | cond condition yes no =>
    let c := measure condition
    let y := measure yes
    let n := measure no
    ⟨c.least + min y.least n.least,
      c.fixed && y.fixed && n.fixed && c.least + y.least == n.least, false⟩
  | keepOut => ⟨0, true, false⟩
  | searchStart => ⟨0, true, false⟩

def measures : List Extended → List Measure
  | [] => []
  | part :: rest => measure part :: measures rest

end

end Extended

end Highlighting.Pattern
