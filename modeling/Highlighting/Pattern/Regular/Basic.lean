import Highlighting.Pattern.Look

/-! Regular expressions. -/
namespace Highlighting.Pattern

/-- The first branch of `alt` is preferred, and so are as many copies as possible of what is `greedy`,
or as few as possible of what is not. -/
inductive Regular where
  | empty
  | one (set : CharSet)
  | look (condition : Look)
  | group (index : Nat) (body : Regular)
  | seq (first second : Regular)
  | alt (first second : Regular)
  | many (body : Regular) (least : Nat) (most : Option Nat) (greedy : Bool)

namespace Regular

def nullable : Regular → Bool
  | empty | look _ => true
  | one _ => false
  | group _ body => body.nullable
  | seq first second => first.nullable && second.nullable
  | alt first second => first.nullable || second.nullable
  | many body least _ _ => least == 0 || body.nullable

def groups : Regular → List Nat
  | empty | one _ | look _ => []
  | group index body => index :: body.groups
  | seq first second | alt first second => first.groups ++ second.groups
  | many body _ _ _ => body.groups

/-- The number of points at which a match has a choice; every copy of a repeated expression has
points of its own, and an unbounded repetition has two for itself. -/
def points : Regular → Nat
  | empty | one _ | look _ => 0
  | group _ body => body.points
  | seq first second => first.points + second.points
  | alt first second => 1 + first.points + second.points
  | many body least none _ => 2 + max 1 least * body.points
  | many body least (some most) _ => least * body.points + (most - least) * (1 + body.points)

end Regular

end Highlighting.Pattern
