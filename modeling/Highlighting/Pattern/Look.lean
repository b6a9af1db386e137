import Highlighting.Pattern.CharSet
import Highlighting.Text.Cursor

/-! Conditions on the two neighbours of a place. -/
namespace Highlighting.Pattern

inductive WordEdge where
  | boundary
  | noBoundary
  | start
  | stop
  | startHalf
  | stopHalf
  deriving DecidableEq, Repr

namespace WordEdge

/-- The condition in terms of whether a word character stands before and after the place. -/
def holds : WordEdge → Bool → Bool → Bool
  | boundary, before, after => before != after
  | noBoundary, before, after => before == after
  | start, before, after => !before && after
  | stop, before, after => before && !after
  | startHalf, before, _ => !before
  | stopHalf, _, after => !after

end WordEdge

/-- A line ends at a line feed, or, for the last two of the line conditions, at a carriage return, too,
where both in a row count as one. -/
inductive Look where
  | textStart
  | textEnd
  | lineStart
  | lineEnd
  | lineStartCrlf
  | lineEndCrlf
  | word (letters : CharSet) (edge : WordEdge)
  deriving DecidableEq

namespace Look

def holds (look : Look) (c : Cursor) : Bool :=
  match look with
  | textStart => c.before.isEmpty
  | textEnd => c.after.isEmpty
  | lineStart => c.before.head?.all (· == '\n')
  | lineEnd => c.after.head?.all (· == '\n')
  | lineStartCrlf =>
    match c.before.head? with
    | none => true
    | some '\n' => true
    | some '\r' => c.after.head? != some '\n'
    | some _ => false
  | lineEndCrlf =>
    match c.after.head? with
    | none => true
    | some '\r' => true
    | some '\n' => c.before.head? != some '\r'
    | some _ => false
  | word letters edge =>
    edge.holds (c.before.head?.any letters.contains) (c.after.head?.any letters.contains)

end Look

end Highlighting.Pattern
