import Highlighting.Fragment
import Highlighting.Scan

/-!
Dividing a text by markers.

A marker claims the matches of its search and gives them its color. Markers come one after the
other, and each sees only the plain fragments that the earlier ones left, every fragment as a
text of its own. So the first marker to claim a piece keeps it.
-/
namespace Highlighting

/-- What a segmentation needs to know of a rule. -/
structure Marker where
  search : Search
  color : Text

namespace Marker

/-- Divides the text `rest`, which begins at offset `start`, around matches: plain, styled,
plain, and so on, with a plain fragment at both ends. -/
def divide (color : Text) : Nat → Text → List Span → Except ScanFault (List Fragment)
  | _, rest, [] => .ok [.plain rest]
  | start, rest, m :: ms =>
    if m.start < start || m.stop < m.start then .error .noSuchPart
    else
      match rest.cut (m.start - start) with
      | none => .error .noSuchPart
      | some (gap, rest) =>
        match rest.cut (m.stop - m.start) with
        | none => .error .noSuchPart
        | some (claimed, rest) =>
          (divide color m.stop rest ms).map fun more =>
            .plain gap :: .styled claimed color :: more

def split (marker : Marker) (text : Text) : Except ScanFault (List Fragment) :=
  (Scan.findAll marker.search text).bind (divide marker.color 0 text)

def apply (marker : Marker) : List Fragment → Except ScanFault (List Fragment)
  | [] => .ok []
  | .plain text :: rest =>
    (marker.split text).bind fun parts => (apply marker rest).map (parts ++ ·)
  | .styled text color :: rest => (apply marker rest).map (.styled text color :: ·)

end Marker

def refine (fragments : List Fragment) : List Marker → Except ScanFault (List Fragment)
  | [] => .ok fragments
  | marker :: markers =>
    (marker.apply fragments).bind fun fragments => refine fragments markers

def segment (text : Text) (markers : List Marker) : Except ScanFault (List Fragment) :=
  refine [.plain text] markers

end Highlighting
