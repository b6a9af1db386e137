import Highlighting.Pattern
import Highlighting.Segmentation

/-! Highlighting rules: a pattern and the color of what it claims, as it was written. An output format
decides what the color means. -/
namespace Highlighting

structure Rule where
  name : Text
  pattern : Pattern
  color : Text

namespace Rule

def compile? [Libraries] (name pattern color : Text) : Option Rule :=
  (Pattern.compile? pattern).map (⟨name, ·, color⟩)

def marker (rule : Rule) : Marker := ⟨rule.pattern.search, rule.color⟩

def split (rule : Rule) (text : Text) : Except ScanFault (List Fragment) :=
  rule.marker.split text

/-- The fragments of a text under an ordered list of rules. -/
def segment (rules : List Rule) (text : Text) : Except ScanFault (List Fragment) :=
  Highlighting.segment text (rules.map marker)

end Rule

end Highlighting
