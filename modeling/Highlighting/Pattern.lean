import Highlighting.Libraries
import Highlighting.Pattern.Regular.Grammar
import Highlighting.Pattern.Extended.Grammar
import Highlighting.Pattern.Extended.Lowering
import Highlighting.Scan
import Highlighting.Text.Quoted

/-!
Compiled patterns.

A pattern is read as a regular expression first. One that is refused there is read again by the
extended grammar, which knows look-around, backreferences and more; such a pattern counts as
backtracking even if no part of it turns out to need that.
-/
namespace Highlighting

namespace Pattern

inductive Matcher where
  | regular (e : Regular)
  | program (p : Program)

namespace Matcher

def search : Matcher → Cursor → Except SearchFault (Option Span)
  | regular e, place => .ok (e.search? place)
  | program p, place => p.search place

end Matcher

def extendedMatcher? [Libraries] (source : Text) : Option Matcher := do
  let e ← Extended.parse? source
  let retried := fun group => e.refers && Libraries.retried source group
  if (e.measure retried).plain then e.regular?.map .regular
  else (e.lower? retried true).map .program

end Pattern

structure Pattern where
  source : Text
  matcher : Pattern.Matcher
  backtracking : Bool

namespace Pattern

/-- Compiles a pattern; no answer means that neither grammar accepts it. -/
def compile? [Libraries] (source : Text) : Option Pattern :=
  match Regular.parse? source with
  | some e => some ⟨source, .regular e, false⟩
  | none => (extendedMatcher? source).map (⟨source, ·, true⟩)

/-- The first match from a byte offset on. What stands before the offset is still seen by
look-behind and by conditions on neighbours. -/
def search (p : Pattern) : Search := fun text offset =>
  match Cursor.at? text offset with
  | some place => p.matcher.search place
  | none => .ok none

/-- The pattern as it is shown to a developer: its source between quotes, and its engine. -/
def shown (p : Pattern) : Text :=
  "Pattern(".toList ++ p.source.quoted ++
    (if p.backtracking then ", backtracking)" else ", standard)").toList

def findAll (p : Pattern) (text : Text) : Except ScanFault (List Span) := Scan.findAll p.search text

end Pattern

end Highlighting
