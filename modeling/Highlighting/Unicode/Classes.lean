import Highlighting.Unicode.Category
import Highlighting.Unicode.Property
import Highlighting.Unicode.Recent

/-!
The character classes that several parts of the library share.

Patterns divide characters as Unicode 16.0 does: the `wordRuns` belong to them. The tests on
single characters know the additions of Unicode 17.0, too.
-/
namespace Highlighting.Unicode

def isBlank (c : Char) : Bool := Property.whiteSpace.contains c.toNat

def isAlphabetic (c : Char) : Bool :=
  Property.alphabetic.contains c.toNat || Recent.alphabetic.contains c.toNat

def numericRuns : List Runs :=
  [Category.decimalNumber, Category.letterNumber, Category.otherNumber, Recent.numeric]

def isNumeric (c : Char) : Bool := numericRuns.any (·.contains c.toNat)

def isAlphanumeric (c : Char) : Bool := isAlphabetic c || isNumeric c

/-- Whether a character is a letter with case. The glottal stop `ʕ` no longer is one. -/
def isCased (c : Char) : Bool :=
  c != 'ʕ' && (Property.cased.contains c.toNat || Recent.cased.contains c.toNat)

def isCaseIgnorable (c : Char) : Bool :=
  Property.caseIgnorable.contains c.toNat || Recent.caseIgnorable.contains c.toNat

def wordRuns : List Runs :=
  [Property.alphabetic, Category.decimalNumber, Category.connectorPunctuation,
    Category.nonspacingMark, Category.spacingMark, Category.enclosingMark, Property.joinControl]

/-- Characters with no visible form of their own, other than the plain blank. -/
def invisibleRuns : List Runs :=
  [Category.control, Category.format, Category.privateUse, Category.unassigned,
    Category.lineSeparator, Category.paragraphSeparator, Category.spaceSeparator,
    Property.otherDefaultIgnorableCodePoint]

/-- Whether a character joins the one before it. The halfwidth sound marks stand alone. -/
def isJoining (c : Char) : Bool :=
  c != 'ﾞ' && c != 'ﾟ' &&
    (Property.graphemeExtend.contains c.toNat || Recent.graphemeExtend.contains c.toNat)

def isVisible (c : Char) : Bool :=
  c == ' ' || Recent.characters.contains c.toNat && !isJoining c ||
    !invisibleRuns.any (·.contains c.toNat) && !isJoining c

end Highlighting.Unicode
