import Highlighting.Pattern.CharSet.Members
import Highlighting.Pattern.Regular.Basic

/-!
Regular expressions in normal form.

Expressions are put together from their parts by `row`, `ofBranches` and `repeated`, which leave
out what is empty, take branches of single characters together to one set, draw out a common
start of all branches, and drop repetitions that make no difference. None of this changes what
an expression matches; it changes how large its matcher is, and that is limited.
-/
namespace Highlighting.Pattern.Regular

def isVoid : Regular → Bool
  | empty | look _ => true
  | one _ => false
  | group _ body => body.isVoid
  | seq first second => first.isVoid && second.isVoid
  | alt first second => first.isVoid && second.isVoid
  | many body _ most _ => body.isVoid || most == some 0

def size : Regular → Nat
  | empty | one _ | look _ => 1
  | group _ body => body.size + 1
  | seq first second | alt first second => first.size + second.size + 1
  | many body .. => body.size + 1

/-- The parts of a row, other than the empty ones. -/
def parts : Regular → List Regular
  | empty => []
  | seq first second => first.parts ++ second.parts
  | e => [e]

def branches : Regular → List Regular
  | alt first second => first.branches ++ second.branches
  | e => [e]

def inRow : List Regular → Regular
  | [] => empty
  | [only] => only
  | e :: rest => seq e (inRow rest)

def inTurn : List Regular → Regular
  | [] => empty
  | [only] => only
  | e :: rest => alt e (inTurn rest)

def row (es : List Regular) : Regular := inRow (es.flatMap parts)

def same : Regular → Regular → Bool
  | empty, empty => true
  | one s, one t => s.members == t.members
  | look a, look b => a == b
  | group i a, group j b => i == j && same a b
  | seq a b, seq c d => same a c && same b d
  | alt a b, alt c d => same a c && same b d
  | many a least most greedy, many b least' most' greedy' =>
    least == least' && most == most' && greedy == greedy' && same a b
  | _, _ => false

def sameAll : List Regular → List Regular → Bool
  | [], [] => true
  | a :: as, b :: bs => same a b && sameAll as bs
  | _, _ => false

def isLetter : Regular → Bool
  | one s => s.single?.isSome
  | _ => false

/-- The parts of a row, where characters that stand side by side are taken together. -/
def chunks (e : Regular) : List (List Regular) :=
  e.parts.foldr (fun part chunks =>
    match chunks with
    | (next :: others) :: rest =>
      if part.isLetter && next.isLetter then (part :: next :: others) :: rest
      else [part] :: (next :: others) :: rest
    | chunks => [part] :: chunks) []

def commonStart : List (List Regular) → List (List Regular) → List (List Regular)
  | a :: as, b :: bs => if sameAll a b then a :: commonStart as bs else []
  | _, _ => []

/-- The start that all branches have in common, and what is left of them. Branches of a single
chunk have none. -/
def splitStart? (es : List Regular) : Option (List Regular × List Regular) :=
  match es.map chunks with
  | [] => none
  | first :: others =>
    if first.length < 2 || others.any (·.length < 2) then none
    else
      let start := others.foldl commonStart first
      if start.isEmpty then none
      else some (start.flatten,
        (first :: others).map fun chunks => inRow (chunks.drop start.length).flatten)

/-- The set of all characters that some branch stands for, if every branch stands for one
character, or every branch for any character of a set. -/
def joined? (es : List Regular) : Option CharSet := do
  let sets ← es.mapM fun e =>
    match e with
    | one s => some s
    | _ => none
  let letters := (sets.filter (·.single?.isSome)).length
  if letters = 0 || letters = sets.length then some (.unionAll sets) else none

/-- Branches in normal form; `fuel` bounds how often a common start is drawn out. -/
def choice : Nat → List Regular → Regular
  | 0, es => inTurn es
  | fuel + 1, es =>
    match es.flatMap branches with
    | [] => empty
    | [only] => only
    | es =>
      match joined? es with
      | some s => one s
      | none =>
        match splitStart? es with
        | some (start, rests) => row (start ++ [choice fuel rests])
        | none => inTurn es

def ofBranches (es : List Regular) : Regular := choice ((es.map size).foldl (· + ·) 1) es

/-- A repetition in normal form. To repeat what is always empty makes no difference. -/
def repeated (body : Regular) (least : Nat) (most : Option Nat) (greedy : Bool) : Regular :=
  let least := if body.isVoid then min least 1 else least
  let most := if body.isVoid then some (min (most.getD 1) 1) else most
  if most == some 0 then empty
  else if least == 1 && most == some 1 then body
  else many body least most greedy

end Highlighting.Pattern.Regular
