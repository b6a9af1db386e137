import Highlighting.Language
import Highlighting.Palette

/-!
The language Austral.

Comments come first, so that nothing inside them is claimed again. Type names and numbers begin
only after a character that cannot belong to an identifier, so never at the start of a fragment.
-/
namespace Highlighting.Austral

def identifier : Text := "A-Za-z0-9_".toList

def withinLine : Text := "[^\\n\\r\\x\x7b2028\x7d\\x\x7b2029\x7d]".toList

def comment : Text := "--".toList ++ withinLine ++ "*(\\n|$)".toList

/-- Words after blanks, line feeds or the start of the text, all of which belong to the match. -/
def wordsAfterBlanks (words : String) : Text :=
  "(^|[ \\n])[ \\n]*(".toList ++ words.toList ++ ")".toList

def keyword : Text := wordsAfterBlanks "generic|let|if|end if|then|and|not|instance"

def declaration : Text :=
  wordsAfterBlanks "typeclass|method|function|body|module|end|union|record|import|is|has"

/-- The condition that no character of an identifier stands before, but another one does. -/
def afterIdentifier : Text := "(?<=[^".toList ++ identifier ++ "])".toList

def typeName : Text := afterIdentifier ++ "[A-Z][".toList ++ identifier ++ "]*".toList

def literal : Text :=
  "(\"".toList ++ withinLine ++ "*\"|".toList ++ afterIdentifier ++ "[0-9])".toList

/-- The patterns with the names of their rules, in order of priority. -/
def patterns : List (String × Text × TokenClass) := [
  ("comment", comment, .comment),
  ("keyword", keyword, .keyword),
  ("declaration", declaration, .declaration),
  ("type_name", typeName, .typeName),
  ("literal", literal, .literal)]

def rules [Libraries] (palette : Palette) : Except Problem (List Rule) :=
  patterns.mapM fun (name, pattern, token) =>
    match Rule.compile? name.toList pattern (palette.color token) with
    | some rule => .ok rule
    | none => .error (.invalidPattern pattern)

def name : Text := "Austral".toList

def language [Libraries] (palette : Palette) : Except Problem Language :=
  (rules palette).map fun rules =>
    { name, extensions := ["aum".toList, "aui".toList], rules }

end Highlighting.Austral
