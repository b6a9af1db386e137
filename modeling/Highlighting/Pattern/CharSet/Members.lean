import Highlighting.Pattern.CharSet

/-!
The members of a set of characters as runs of code points.

Most of the library asks a set about one character at a time. How large a matcher becomes, though,
hangs on all members of the sets in its pattern; `runBound` bounds the number of their runs
without a look at any table.
-/
namespace Highlighting.Pattern.CharSet

open Highlighting.Unicode

/-- The code points that a row of case pairs mentions on one side, beginning at `start`, and that
differ by case alone from a member of a set. -/
def variantsInRow (row : CaseRow) (start : Nat) (members : Runs) : Runs :=
  (List.range ((row.last - row.first) / row.step + 1)).filterMap fun i =>
    let code := start + i * row.step
    if (caseVariants (Char.ofNat code)).any (members.contains ·.toNat) then some (code, code)
    else none

def withVariants (members : Runs) : Runs :=
  foldRows.foldl (fun closed row =>
    (closed.union (variantsInRow row row.first members)).union
      (variantsInRow row row.image members)) members

/-- The code points of a set; some of them may be no characters. -/
def codes : CharSet → Runs
  | chars cs => cs.foldr (fun c rest => Runs.union [(c.toNat, c.toNat)] rest) []
  | range lo hi => if lo ≤ hi then [(lo.toNat, hi.toNat)] else []
  | runs table => table
  | union a b => a.codes.union b.codes
  | inter a b => a.codes.inter b.codes
  | diff a b => a.codes.diff b.codes
  | symmDiff a b => (a.codes.diff b.codes).union (b.codes.diff a.codes)
  | compl a => a.codes.compl
  | caseless a => withVariants a.codes

def members (s : CharSet) : Runs := s.codes.diff [(0xD800, 0xDFFF)]

def single? : CharSet → Option Char
  | chars [c] => some c
  | range lo hi => if lo = hi then some lo else none
  | s =>
    match s.members with
    | [(lo, hi)] => if lo = hi then some (Char.ofNat lo) else none
    | _ => none

/-- A bound on the number of runs of the members. No table has more than a thousand runs, and no
more than three thousand characters differ from another one by case alone. -/
def runBound : CharSet → Nat
  | chars cs => cs.length
  | range .. => 1
  | runs _ => 1000
  | union a b | inter a b | diff a b | symmDiff a b => a.runBound + b.runBound + 1
  | compl a => a.runBound + 1
  | caseless a => a.runBound + 3000

end Highlighting.Pattern.CharSet
