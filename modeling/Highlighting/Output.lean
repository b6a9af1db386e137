import Highlighting.Color
import Highlighting.Rule

/-!
Output formats.

A format says how one fragment is written. Plain fragments are written as they are in every
format, and nothing is escaped.
-/
namespace Highlighting

inductive Format where
  | html
  | ansi
  | plain
  deriving DecidableEq, Repr

namespace Format

/-- Formats go by several names; case and white space around a name do not matter. -/
def ofName? (name : Text) : Option Format :=
  match String.ofList (Text.lower (Text.trim name)) with
  | "html" => some html
  | "ansi" | "term" | "terminal" => some ansi
  | "plain" | "text" => some plain
  | _ => none

theorem lower_trim {name : Text} (small : Text.trim name = name ∧ name.all Text.isSmall = true) :
    Text.lower (Text.trim name) = name := by
  rw [small.1, Text.lower_small small.2]

theorem ofName?_ansi : ofName? "ansi".toList = some ansi := by
  rw [ofName?, lower_trim (by decide +kernel)]
  rfl

theorem ofName?_plain : ofName? "plain".toList = some plain := by
  rw [ofName?, lower_trim (by decide +kernel)]
  rfl

end Format

namespace Color

def selection : Color → Text
  | named name => "5;".toList ++ Digits.decimal name.code
  | rgb r g b => "2;".toList ++ Digits.decimal r ++ ";".toList ++ Digits.decimal g ++ ";".toList ++ Digits.decimal b

end Color

namespace Fragment

def html : Fragment → Text
  | plain text => text
  | styled text color =>
    "<span style='color:".toList ++ color ++ "'>".toList ++ text ++ "</span>".toList

theorem html_plain (text : Text) : (plain text).html = text := rfl

theorem html_styled (text color : Text) :
    (styled text color).html =
      "<span style='color:".toList ++ color ++ "'>".toList ++ text ++ "</span>".toList := rfl

/-- Terminal commands around a claimed text, unless it is empty or its color unknown. -/
def ansi : Fragment → Text
  | plain text => text
  | styled text color =>
    if text.isEmpty then []
    else
      match Color.parse? color with
      | some color => "\x1b[38;".toList ++ color.selection ++ "m".toList ++ text ++
          "\x1b[39m".toList
      | none => text

theorem ansi_plain (text : Text) : (plain text).ansi = text := rfl

theorem ansi_empty (color : Text) : (styled [] color).ansi = [] := rfl

theorem ansi_unknown {color : Text} (unknown : Color.parse? color = none) (text : Text) :
    (styled text color).ansi = text := by
  cases text <;> simp [ansi, unknown]

theorem ansi_known {text color : Text} {c : Color} (nonempty : text ≠ [])
    (known : Color.parse? color = some c) :
    (styled text color).ansi =
      "\x1b[38;".toList ++ c.selection ++ "m".toList ++ text ++ "\x1b[39m".toList := by
  simp only [ansi, known, List.isEmpty_iff, nonempty, if_false]

def render (format : Format) (fragment : Fragment) : Text :=
  match format with
  | .html => fragment.html
  | .ansi => fragment.ansi
  | .plain => fragment.text

end Fragment

def render (format : Format) (fragments : List Fragment) : Text :=
  fragments.flatMap (·.render format)

def highlight (format : Format) (rules : List Rule) (text : Text) : Except ScanFault Text :=
  (Rule.segment rules text).map (render format)

/-- Any way to write fragments: what it writes for a fragment comes behind the output so far, and
does not depend on it. -/
structure Renderer where
  append : Fragment → Text → Text
  append_eq : ∀ fragment output, append fragment output = output ++ append fragment []

namespace Renderer

def write (renderer : Renderer) (fragment : Fragment) : Text := renderer.append fragment []

def output (renderer : Renderer) (fragments : List Fragment) : Text :=
  fragments.foldl (fun output fragment => renderer.append fragment output) []

theorem output_eq (renderer : Renderer) (fragments : List Fragment) :
    renderer.output fragments = fragments.flatMap renderer.write := by
  have behind (before : Text) :
      fragments.foldl (fun output fragment => renderer.append fragment output) before =
        before ++ fragments.flatMap renderer.write := by
    induction fragments generalizing before with
    | nil => simp
    | cons fragment rest ih =>
      rw [List.foldl_cons, ih, renderer.append_eq]
      simp [write]
  exact behind []

end Renderer

def Format.renderer (format : Format) : Renderer where
  append fragment output := output ++ fragment.render format
  append_eq := by simp

def highlightWith (renderer : Renderer) (rules : List Rule) (text : Text) :
    Except ScanFault Text :=
  (Rule.segment rules text).map renderer.output

theorem highlightWith_renderer (format : Format) (rules : List Rule) (text : Text) :
    highlightWith format.renderer rules text = highlight format rules text := by
  simp only [highlightWith, highlight]
  congr 1
  funext fragments
  rw [Renderer.output_eq]
  rfl

end Highlighting
