import Highlighting.Text.Basic

/-! Fragments: the pieces into which a text is divided. -/
namespace Highlighting

/-- A piece of a text, either untouched or claimed by a rule with a color. -/
inductive Fragment where
  | plain (text : Text)
  | styled (text color : Text)
  deriving DecidableEq, Repr

namespace Fragment

def text : Fragment → Text
  | plain text => text
  | styled text _ => text

def color? : Fragment → Option Text
  | plain _ => none
  | styled _ color => some color

def isPlain : Fragment → Bool
  | plain _ => true
  | styled .. => false

def concat (fragments : List Fragment) : Text := fragments.flatMap text

@[simp] theorem concat_nil : concat [] = [] := rfl

@[simp] theorem concat_cons (f : Fragment) (fs : List Fragment) :
    concat (f :: fs) = f.text ++ concat fs := by
  simp [concat]

@[simp] theorem concat_append (fs gs : List Fragment) :
    concat (fs ++ gs) = concat fs ++ concat gs := by
  simp [concat]

theorem mem_concat_of_mem {fs : List Fragment} {f : Fragment} (member : f ∈ fs) {c : Char}
    (inside : c ∈ f.text) : c ∈ concat fs :=
  List.mem_flatMap.mpr ⟨f, member, inside⟩

end Fragment

end Highlighting
