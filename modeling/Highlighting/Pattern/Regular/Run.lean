import Highlighting.Pattern.Regular.Basic
import Highlighting.Pattern.Regular.Seen

/-!
Matching a regular expression.

A run tries the choices of an expression in order of preference and takes the first way that
leads to a match. It is a search in depth: every part of the expression is given what is to be
done `Next` behind it. What can be reached from a point of choice depends only on the point and
the place, so each choice is made at each place once; coming back to it fails. That bounds the
work, and it is what ends a repetition of something empty. It holds over a whole search, too: a
choice that came to nothing behind one start comes to nothing behind a later start.
-/
namespace Highlighting.Pattern

/-- The offsets at which groups start and end: group `g` has the slots `2 * g` and `2 * g + 1`. -/
abbrev Slots := List (Nat × Nat)

namespace Slots

def get? (slots : Slots) (slot : Nat) : Option Nat := slots.lookup slot

def set (slots : Slots) (slot offset : Nat) : Slots :=
  (slot, offset) :: slots.filter (·.1 != slot)

def clear (slots : Slots) (group : Nat) : Slots :=
  slots.filter fun entry => entry.1 != 2 * group && entry.1 != 2 * group + 1

end Slots

structure Reached where
  place : Cursor
  slots : Slots

namespace Reached

def offset (r : Reached) : Nat := r.place.offset

def setSlot (r : Reached) (slot : Nat) : Reached :=
  { r with slots := r.slots.set slot r.offset }

end Reached

/-- What is to be done from a place on. The answer is the end of the match, if there is one,
with the choices made by then. -/
abbrev Next := Reached → Seen → Option Reached × Seen

namespace Next

def accept : Next := fun r seen => (some r, seen)

def fail : Next := fun _ seen => (none, seen)

def orElse (first second : Next) : Next := fun r seen =>
  match first r seen with
  | (none, seen) => second r seen
  | found => found

end Next

/-- The frame of a run: the offset where the search began, and a bound on the number of places
from there on. -/
structure Grid where
  origin : Nat
  places : Nat

namespace Grid

def choose (g : Grid) (point : Nat) (greedy : Bool) (more leave : Next) : Next := fun r seen =>
  let offset := r.offset - g.origin
  if seen.has offset point then Next.fail r seen
  else (if greedy then Next.orElse more leave else Next.orElse leave more) r (seen.add offset point)

def copies (part : Nat → Next → Next) (size : Nat) : Nat → Nat → Next → Next
  | 0, _, next => next
  | count + 1, point, next => fun r seen =>
    part point (copies part size count (point + size) next) r seen

def upTo (g : Grid) (part : Nat → Next → Next) (size : Nat) (greedy : Bool) :
    Nat → Nat → Next → Next
  | 0, _, next => next
  | count + 1, point, next => fun r seen =>
    g.choose point greedy
      (part (point + 1) (upTo g part size greedy count (point + 1 + size) next)) next r seen

/-- Any number of further copies behind a copy. Two copies in a row cannot begin at one place,
so `fuel` need not exceed the number of places. -/
def again (g : Grid) (part : Next → Next) (point : Nat) (greedy : Bool) (next : Next) :
    Nat → Next
  | 0 => Next.fail
  | fuel + 1 => fun r seen =>
    g.choose point greedy (part (again g part point greedy next fuel)) next r seen

end Grid

namespace Regular

def run (g : Grid) : Regular → Nat → Next → Next
  | empty, _, next => next
  | one set, _, next => fun r seen =>
    match r.place.next? with
    | some (c, place) => if set.contains c then next { r with place } seen else (none, seen)
    | none => (none, seen)
  | look condition, _, next => fun r seen =>
    if condition.holds r.place then next r seen else (none, seen)
  | group index body, point, next => fun r seen =>
    body.run g point (fun r seen => next (r.setSlot (2 * index + 1)) seen)
      (r.setSlot (2 * index)) seen
  | seq first second, point, next => fun r seen =>
    first.run g point (fun r seen => second.run g (point + first.points) next r seen) r seen
  | alt first second, point, next => fun r seen =>
    g.choose point true (first.run g (point + 1) next)
      (second.run g (point + 1 + first.points) next) r seen
  | many body least none greedy, point, next => fun r seen =>
    let part := body.run g
    let more := g.again (part (point + 2)) point greedy next g.places
    match least with
    | 0 =>
      if body.nullable then g.choose (point + 1) greedy (part (point + 2) more) next r seen
      else more r seen
    | least + 1 =>
      Grid.copies part body.points least (point + 2 + body.points) (part (point + 2) more) r seen
  | many body least (some most) greedy, point, next => fun r seen =>
    Grid.copies (body.run g) body.points least point
      (g.upTo (body.run g) body.points greedy (most - least) (point + least * body.points) next)
      r seen

def matchFrom? (e : Regular) (places : Nat) (r : Reached) : Option Reached :=
  (e.run ⟨r.offset, places⟩ 0 .accept r {}).1

def searchFrom? (e : Regular) (g : Grid) : Nat → Cursor → Seen → Option Span
  | 0, _, _ => none
  | count + 1, start, seen =>
    match e.run g 0 .accept ⟨start, []⟩ seen with
    | (some r, _) => some ⟨start.offset, r.offset⟩
    | (none, seen) =>
      match start.next? with
      | some (_, next) => searchFrom? e g count next seen
      | none => none

def search? (e : Regular) (place : Cursor) : Option Span :=
  let places := place.after.length + 1
  e.searchFrom? ⟨place.offset, places⟩ places place {}

end Regular

end Highlighting.Pattern
