import Highlighting.Text.Basic

/-!
The scan of a text for all matches of a pattern.

The scan knows a pattern by its `Search` alone. It goes on where a match ends, or one character
behind an empty match. Nothing is assumed about the search, so a scan can fail: the search may
have no answer, an empty match may not lie between two characters, and a search that is not moved
on by its own matches makes the scan endless.
-/
namespace Highlighting

/-- Why a search has no answer: it asks for the text of a group that begins behind its end. -/
inductive SearchFault where
  | brokenGroup
  deriving DecidableEq, Repr

abbrev Search := Text → Nat → Except SearchFault (Option Span)

/-- Why a text cannot be divided along the matches of a search: the scan comes back to an offset at
which it has searched before, or a match or the gap before it is no part of the text, or a search
has no answer. -/
inductive ScanFault where
  | endless
  | noSuchPart
  | search (fault : SearchFault)
  deriving DecidableEq, Repr

namespace Scan

/-- The offset at which the scan goes on behind a match. Behind an empty match at the end of the
text this is no offset of the text any more. -/
def resume? (text : Text) (m : Span) : Option Nat :=
  if m.isEmpty then
    match Text.cutBack [] text m.stop with
    | some (_, c :: _) => some (m.stop + c.utf8Size)
    | some (_, []) => some (text.bytes + 1)
    | none => none
  else some m.stop

/-- The matches from `offset` on, found by at most `fuel` searches, in a text of `size` bytes. -/
def from? (search : Search) (text : Text) (size : Nat) : Nat → Nat → Except ScanFault (List Span)
  | 0, _ => .error .endless
  | fuel + 1, offset =>
    if size < offset then .ok []
    else
      match search text offset with
      | .error fault => .error (.search fault)
      | .ok none => .ok []
      | .ok (some m) =>
        match resume? text m with
        | none => .error .noSuchPart
        | some next => (from? search text size fuel next).map (m :: ·)

/-- All matches in a text. There are fewer offsets than searches allowed, so a scan that uses up
all of them has searched twice at one offset and would never end. -/
def findAll (search : Search) (text : Text) : Except ScanFault (List Span) :=
  from? search text text.bytes (text.bytes + 2) 0

end Scan

end Highlighting
