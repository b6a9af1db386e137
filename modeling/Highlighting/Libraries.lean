import Highlighting.Text.Basic

/-!
What is left open about the libraries that the program stands on.

The causes of a refused pattern and of a malformed rule file are worded by the libraries that read
them. And a group of an extended pattern that refers to groups may need a second choice, or may run
with the plain parts around it, where its preferred match is final; `retried` tells which groups of
such a pattern do need one. Whatever is proved of the program holds for every wording and every
such choice.
-/
namespace Highlighting

class Libraries where
  patternCause : Text → Text
  rulesCause : Text → Text
  retried : Text → Nat → Bool

/-- Causes are not told, and every group runs with the plain parts around it: `(?:([ab])|([ab]))\2`
finds nothing in `bb`, since the first branch is final. -/
instance Libraries.default : Libraries where
  patternCause _ := []
  rulesCause _ := []
  retried _ _ := false

end Highlighting
