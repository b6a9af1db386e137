import Highlighting.Text.Basic

/-! Palettes: the colors of a simple grammar under the names of its token classes. -/
namespace Highlighting

structure Palette where
  keyword : Text
  comment : Text
  declaration : Text
  typeName : Text
  literal : Text
  deriving DecidableEq, Repr

inductive TokenClass where
  | keyword
  | comment
  | declaration
  | typeName
  | literal
  deriving DecidableEq, Repr

namespace TokenClass

def ofName? (name : Text) : Option TokenClass :=
  match String.ofList name with
  | "keyword" => some keyword
  | "comment" => some comment
  | "declaration" => some declaration
  | "type_name" | "type" => some typeName
  | "literal" => some literal
  | _ => none

end TokenClass

namespace Palette

def standard : Palette where
  keyword := "#ffffbb".toList
  comment := "#bbffff".toList
  declaration := "#bbffff".toList
  typeName := "#bbffbb".toList
  literal := "#ff66ff".toList

def color (p : Palette) : TokenClass → Text
  | .keyword => p.keyword
  | .comment => p.comment
  | .declaration => p.declaration
  | .typeName => p.typeName
  | .literal => p.literal

def recolor (p : Palette) (token : TokenClass) (color : Text) : Palette :=
  match token with
  | .keyword => { p with keyword := color }
  | .comment => { p with comment := color }
  | .declaration => { p with declaration := color }
  | .typeName => { p with typeName := color }
  | .literal => { p with literal := color }

def get? (p : Palette) (name : Text) : Option Text := (TokenClass.ofName? name).map p.color

/-- Replaces the color under a name; an unknown name changes nothing. -/
def put (p : Palette) (name color : Text) : Palette :=
  match TokenClass.ofName? name with
  | some token => p.recolor token color
  | none => p

end Palette

end Highlighting
