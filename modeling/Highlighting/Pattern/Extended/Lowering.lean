import Highlighting.Pattern.Extended.Basic
import Highlighting.Pattern.Extended.Program

/-!
From extended expressions to programs.

Plain parts run as regular expressions where a second choice inside them cannot matter: when
they have a fixed length, or when nothing behind them can send the run back. `strict` says that
something behind the expression may do so.
-/
namespace Highlighting.Pattern.Extended

def plain? (parts : List Extended) : Option Program :=
  if parts.isEmpty then some .nothing else (regularRow? parts).map .regular

def inRow (ps : List Program) : Program := ps.foldr .seq .nothing

def inTurn : List Program → Program
  | [] => .nothing
  | [only] => only
  | p :: rest => .alt p (inTurn rest)

/-- A sequence whose parts have the given measures and programs. The parts of fixed length at
both ends run as regular expressions, and so do all plain parts at the end if not `strict`. -/
def sequence? (strict : Bool) (parts : List Extended) (ms : List Measure)
    (programs : List (Option Program)) : Option Program := do
  let settled := fun (m : Measure) => m.plain && m.fixed
  let front := (ms.takeWhile settled).length
  let back := ((ms.drop front).reverse.takeWhile fun m => m.plain && (m.fixed || !strict)).length
  let middle := parts.length - front - back
  let first ← plain? (parts.take front)
  let inner ← ((programs.drop front).take middle).mapM id
  let last ← plain? (parts.drop (front + middle))
  some (inRow (first :: inner ++ [last]))

def behind? (negated : Bool) (m : Measure) (program : Option Program) : Option Program :=
  if !m.fixed then none
  else program.map fun p => if negated then .notAround m.least p else .around m.least p

variable (retried : Nat → Bool)

mutual

def lower? (strict : Bool) (e : Extended) : Option Program :=
  if !strict && (measure retried e).plain then plain? [e]
  else
    match e with
    | empty => some .nothing
    | one set depth => plain? [one set depth]
    | look condition => plain? [look condition]
    | group index body => (lower? strict body).map (.group index)
    | seq parts => sequence? strict parts (measures retried parts) (lowerEach true parts)
    | alt branches => ((lowerEach strict branches).mapM id).map inTurn
    | many body least most greedy =>
      let m := measure retried body
      if least = 0 && most = some 1 then
        (lower? strict body).map (.optional · greedy)
      else
        (lower? (strict || !m.plain) body).map
          (.many · least most greedy (most.isNone && m.least == 0))
    | ahead negated body =>
      (lower? false body).map fun p => if negated then .notAround 0 p else .around 0 p
    | behind negated (alt branches) =>
      let m := measure retried (alt branches)
      if m.fixed then
        behind? negated m
          (if m.plain then plain? [alt branches]
            else ((lowerEach false branches).mapM id).map inTurn)
      else do
        let looks ← ((measures retried branches).zip (lowerEach false branches)).mapM
          fun (m, program) => behind? negated m program
        some (if negated then inRow looks else inTurn looks)
    | behind negated body => behind? negated (measure retried body) (lower? false body)
    | atomic body => (lower? false body).map .atomic
    | backref index => some (.backref index)
    | groupSet index => some (.groupSet index)
    | cond condition yes no => do
      some (.cond (← lower? strict condition) (← lower? strict yes)
        (← lower? strict no))
    | keepOut => some .keepOut
    | searchStart => some .searchStart

def lowerEach (strict : Bool) : List Extended → List (Option Program)
  | [] => []
  | part :: rest => lower? strict part :: lowerEach strict rest

end

end Highlighting.Pattern.Extended
