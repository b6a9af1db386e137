import Highlighting.Pattern.Regular.Run
import Highlighting.Scan

/-!
Backtracking programs.

A run tries the choices of a program in order and hands every place that it reaches to a
continuation. Choices that are still open are numbered from the bottom, and `height` counts
them. When a run fails it reports how many choices are still open: a choice resumes with its
second way if it is among them, and passes the failure on otherwise. An atomic group closes the
choices made inside it by going back to the height at which it began.

Every resumed choice costs one unit of the budget. A run without budget, with too many open
choices, or one that repeats something without an end, stops at a limit: it gives up without an
answer. It stops for good, too, where a group is referred to that has begun again, behind the end
that it had before: between its ends there is no text.
-/
namespace Highlighting.Pattern

/-- A `regular` part takes the preferred match and has no second choice. Copies that are `guarded`, and
not among the least number, must not be empty. `around` and `notAround` look for a match of the body
that starts `back` characters before the place. `keepOut` moves the start of the reported match to
the place, and `searchStart` fails behind the place where the search began. -/
inductive Program where
  | nothing
  | regular (e : Regular)
  | group (index : Nat) (body : Program)
  | seq (first second : Program)
  | alt (first second : Program)
  | optional (body : Program) (greedy : Bool)
  | many (body : Program) (least : Nat) (most : Option Nat) (greedy guarded : Bool)
  | around (back : Nat) (body : Program)
  | notAround (back : Nat) (body : Program)
  | atomic (body : Program)
  | cond (condition yes no : Program)
  | backref (group : Nat)
  | groupSet (group : Nat)
  | keepOut
  | searchStart

namespace Program

structure Match extends Reached where
  start : Nat

/-- The marks are the heights at which atomic groups and conditions began, innermost first. -/
structure State extends Match where
  marks : List Nat
  height : Nat

/-- Why a run stops without having tried all of its choices. -/
inductive Stop where
  | limit
  | fault (fault : SearchFault)
  deriving DecidableEq, Repr

/-- How a run ends. Behind a failure `height` choices are still open. -/
inductive Outcome where
  | found (s : State) (budget : Nat)
  | failed (height : Nat) (budget : Nat)
  | stopped (why : Stop)

abbrev Continuation := State → Nat → Outcome

namespace State

def fail (s : State) (budget : Nat) : Outcome := .failed s.height budget

def setSlot (s : State) (slot : Nat) : State := { s with toReached := s.toReached.setSlot slot }

end State

def heightLimit : Nat := 1000000

def withChoice (first : Continuation) : Continuation := fun s budget =>
  if s.height < heightLimit then first { s with height := s.height + 1 } budget else .stopped .limit

/-- Opens a choice: the first way with one more choice open, and the second way if that choice
is reached again. -/
def choose (first second : Continuation) : Continuation := fun s budget =>
  match withChoice first s budget with
  | .failed height budget =>
    if s.height < height then
      match budget with
      | 0 => .stopped .limit
      | budget + 1 => second s budget
    else .failed height budget
  | outcome => outcome

def beginAtomic (s : State) : State := { s with marks := s.height :: s.marks }

/-- Ends an atomic part: of the open choices, those made since it began are closed. -/
def endAtomic (s : State) : State :=
  match s.marks with
  | [] => s
  | mark :: marks => { s with marks, height := min mark s.height }

def advanceOver? : Text → Cursor → Option Cursor
  | [], place => some place
  | c :: rest, place =>
    match place.next? with
    | some (d, next) => if c = d then advanceOver? rest next else none
    | none => none

/-- Repeats `body`, where `count` copies are done and `last` is the place at which the last one
beyond the least number began. `fuel` bounds the number of further copies. -/
def repeatRun (body : Continuation → Continuation) (least : Nat) (most : Option Nat)
    (greedy guarded : Bool) (next : Continuation) :
    Nat → Nat → Option Nat → Continuation
  | 0, _, _ => fun _ _ => .stopped .limit
  | fuel + 1, count, last => fun s budget =>
    if most = some count then next s budget
    else if guarded && count > least && last = some s.offset then s.fail budget
    else
      let last := if count < least then last else some s.offset
      let again := body (repeatRun body least most greedy guarded next fuel (count + 1) last)
      if count < least then again s budget
      else if greedy then choose again next s budget
      else choose next again s budget

/-- What all runs of one search share: the text, the offset at which the search began, and the
number of places in the text. Look-behind leads to places before the origin, too. -/
structure Ground where
  text : Text
  origin : Nat
  places : Nat

/-- The copies that a repetition can make before it must have made one without advancing. -/
def Ground.copies (g : Ground) (least : Nat) (most : Option Nat) : Nat :=
  most.getD (least + g.places) + 1

def run (g : Ground) : Program → Continuation → Continuation
  | nothing, next => next
  | regular e, next => fun s budget =>
    match e.matchFrom? g.places ⟨s.place, e.groups.foldl Slots.clear s.slots⟩ with
    | some r => next { s with toReached := r } budget
    | none => s.fail budget
  | group index body, next => fun s budget =>
    run g body
      (fun s budget => next (s.setSlot (2 * index + 1)) budget)
      (s.setSlot (2 * index)) budget
  | seq first second, next => fun s budget =>
    run g first (fun s budget => run g second next s budget) s budget
  | alt first second, next => fun s budget =>
    choose (run g first next) (run g second next) s budget
  | optional body greedy, next => fun s budget =>
    if greedy then choose (run g body next) next s budget
    else choose next (run g body next) s budget
  | many body least most greedy guarded, next => fun s budget =>
    repeatRun (run g body) least most greedy guarded next
      (g.copies least most) 0 none s budget
  | around back body, next => fun s budget =>
    match s.place.back? back with
    | none => s.fail budget
    | some place =>
      run g body (fun t budget => next { t with place := s.place } budget)
        { s with place } budget
  | notAround back body, next => fun s budget =>
    let inner : Continuation := fun s budget =>
      match s.place.back? back with
      | none => s.fail budget
      | some place => run g body .found { s with place } budget
    match withChoice inner s budget with
    | .found _ budget => s.fail budget
    | .failed height budget =>
      if s.height < height then
        match budget with
        | 0 => .stopped .limit
        | budget + 1 => next s budget
      else .failed height budget
    | .stopped why => .stopped why
  | atomic body, next => fun s budget =>
    run g body (fun s budget => next (endAtomic s) budget) (beginAtomic s) budget
  | cond condition yes no, next => fun s budget =>
    choose
      (run g condition
        (fun s budget => run g yes next (endAtomic s) budget))
      (run g no next) (beginAtomic s) budget
  | backref index, next => fun s budget =>
    match s.slots.get? (2 * index), s.slots.get? (2 * index + 1) with
    | some start, some stop =>
      match g.text.slice? start stop with
      | none => .stopped (.fault .brokenGroup)
      | some part =>
        match advanceOver? part s.place with
        | some place => next { s with place } budget
        | none => s.fail budget
    | _, _ => s.fail budget
  | groupSet index, next => fun s budget =>
    if (s.slots.get? (2 * index)).isSome then next s budget else s.fail budget
  | keepOut, next => fun s budget => next { s with start := s.offset } budget
  | searchStart, next => fun s budget =>
    if g.origin < s.offset then s.fail budget else next s budget

def budgetLimit : Nat := 1000000

/-- The beginning of a run: the reported match starts here, and so does group 0, which stands for
the whole match. -/
def State.initial (place : Cursor) : State :=
  { place, slots := [(0, place.offset)], start := place.offset, marks := [], height := 1 }

/-- The first match that starts at one of the next `count` places. The budget is shared by all
of them, and going on to the next place costs one unit. A match whose start has been moved behind
its end is empty. -/
def searchFrom (p : Program) (g : Ground) :
    Nat → Cursor → Nat → Except SearchFault (Option Span)
  | 0, _, _ => .ok none
  | count + 1, place, budget =>
    match p.run g .found (.initial place) budget with
    | .found s _ => .ok (some ⟨min s.start s.offset, s.offset⟩)
    | .failed _ budget =>
      match budget, place.next? with
      | budget + 1, some (_, next) => searchFrom p g count next budget
      | _, _ => .ok none
    | .stopped .limit => .ok none
    | .stopped (.fault fault) => .error fault

def search (p : Program) (place : Cursor) : Except SearchFault (Option Span) :=
  let text := place.text
  p.searchFrom ⟨text, place.offset, text.length + 1⟩ (place.after.length + 1) place budgetLimit

end Program

end Highlighting.Pattern
