/-!
The choices that a run has made.

A choice is made at a point of an expression and at an offset, which counts from where the run
began. `has_add` says all that matters of a set of choices.
-/
namespace Highlighting.Pattern

/-- A set of choices: for each offset, the points as the bits of a number. -/
structure Seen where
  rows : Array Nat := #[]

namespace Seen

def row (s : Seen) (offset : Nat) : Nat := s.rows[offset]?.getD 0

def has (s : Seen) (offset point : Nat) : Bool := (s.row offset).testBit point

def extend : Nat → Array Nat → Array Nat
  | 0, rows => rows
  | count + 1, rows => extend count (rows.push 0)

def add (s : Seen) (offset point : Nat) : Seen :=
  let rows := extend (offset + 1 - s.rows.size) s.rows
  ⟨rows.setIfInBounds offset (rows[offset]?.getD 0 ||| 1 <<< point)⟩

theorem size_extend (count : Nat) (rows : Array Nat) :
    (extend count rows).size = rows.size + count := by
  induction count generalizing rows with
  | zero => rfl
  | succ count ih =>
    rw [extend, ih, Array.size_push]
    omega

theorem getElem?_extend (count : Nat) (rows : Array Nat) (i : Nat) :
    (extend count rows)[i]?.getD 0 = rows[i]?.getD 0 := by
  induction count generalizing rows with
  | zero => rfl
  | succ count ih =>
    rw [extend, ih, Array.getElem?_push]
    split
    · next h => simp [h]
    · rfl

theorem row_add (s : Seen) (offset point i : Nat) :
    (s.add offset point).row i =
      if offset = i then s.row i ||| 1 <<< point else s.row i := by
  have size := size_extend (offset + 1 - s.rows.size) s.rows
  simp only [add, row, Array.getElem?_setIfInBounds]
  split
  · next h =>
    subst h
    rw [if_pos (by omega), getElem?_extend]
    rfl
  · exact getElem?_extend ..

@[simp] theorem has_empty (offset point : Nat) : ({} : Seen).has offset point = false := by
  simp [has, row]

@[simp] theorem has_add (s : Seen) (offset point i j : Nat) :
    (s.add offset point).has i j = (s.has i j || (offset == i && point == j)) := by
  simp only [has, row_add]
  split
  · next h => simp [h, Nat.testBit_or, Nat.one_shiftLeft, Nat.testBit_two_pow]; rfl
  · next h => simp [h]

end Seen

end Highlighting.Pattern
