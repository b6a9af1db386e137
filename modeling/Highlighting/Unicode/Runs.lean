import Highlighting.Text.Digits

/-!
Sets of code points as ascending runs.

A table is written as text: hexadecimal numbers separated by blanks, alternately the distance
from the end of the last run to the start of the next one and the length of that run.
-/
namespace Highlighting.Unicode

/-- The hexadecimal numbers of a text, where `pending` is the value of the digits just read. -/
def numbersOfChars : Option Nat → List Char → List Nat
  | pending, [] => pending.toList
  | pending, c :: rest =>
    match Digits.hex? c with
    | some digit => numbersOfChars (some (pending.getD 0 * 16 + digit)) rest
    | none => pending.toList ++ numbersOfChars none rest

def numbersOfText (s : String) : List Nat := numbersOfChars none s.toList

theorem numbersOfText_ofList (chars : List Char) :
    numbersOfText (String.ofList chars) = numbersOfChars none chars := by
  rw [numbersOfText, String.toList_ofList]

/-- Disjoint runs of code points in ascending order, both ends included. -/
abbrev Runs := List (Nat × Nat)

namespace Runs

/-- The runs whose gaps and lengths are given, where `start` is the first code point not yet
accounted for. -/
def ofNumbers (start : Nat) : List Nat → Runs
  | gap :: length :: rest =>
    (start + gap, start + gap + length - 1) :: ofNumbers (start + gap + length) rest
  | _ => []

def ofText (s : String) : Runs := ofNumbers 0 (numbersOfText s)

def contains : Runs → Nat → Bool
  | [], _ => false
  | (lo, hi) :: rest, code => if code < lo then false else code ≤ hi || contains rest code

/-- The runs of two sets in one row by their starts; `fuel` is at least their number. -/
def merge : Nat → Runs → Runs → Runs
  | fuel + 1, (lo, hi) :: a, (lo', hi') :: b =>
    if lo ≤ lo' then (lo, hi) :: merge fuel a ((lo', hi') :: b)
    else (lo', hi') :: merge fuel ((lo, hi) :: a) b
  | _, [], b => b
  | _, a, _ => a

def joinFrom (lo hi : Nat) : Runs → Runs
  | [] => [(lo, hi)]
  | (lo', hi') :: rest =>
    if lo' ≤ hi + 1 then joinFrom lo (max hi hi') rest else (lo, hi) :: joinFrom lo' hi' rest

def union (a b : Runs) : Runs :=
  match merge (a.length + b.length) a b with
  | [] => []
  | (lo, hi) :: rest => joinFrom lo hi rest

def gapsFrom (next : Nat) : Runs → Runs
  | [] => if next ≤ 0x10FFFF then [(next, 0x10FFFF)] else []
  | (lo, hi) :: rest =>
    if next < lo then (next, lo - 1) :: gapsFrom (hi + 1) rest else gapsFrom (hi + 1) rest

def compl (a : Runs) : Runs := gapsFrom 0 a

def inter (a b : Runs) : Runs := (a.compl.union b.compl).compl

def diff (a b : Runs) : Runs := (a.compl.union b).compl

end Runs

end Highlighting.Unicode
