import Highlighting.Unicode.Category
import Highlighting.Unicode.Property
import Highlighting.Unicode.Script
import Highlighting.Unicode.Value

/-!
Sets of characters under the names that Unicode gives them.

Names are compared loosely: case, blanks, hyphens and underscores do not matter, and neither
does a leading `is`.
-/
namespace Highlighting.Unicode.Named

/-- The form in which two spellings of one name agree. -/
def loose (name : List Char) : List Char :=
  let shortened : Option (List Char) := match name with
    | a :: b :: rest => if a.toLower = 'i' ∧ b.toLower = 's' then some rest else none
    | _ => none
  let kept := (shortened.getD name).filter fun c =>
    c.toNat < 0x80 ∧ c ≠ ' ' ∧ c ≠ '_' ∧ c ≠ '-'
  let lower := kept.map Char.toLower
  if shortened.isSome ∧ lower = ['c'] then ['i', 's', 'c'] else lower

def isOneOf (key : List Char) (names : List String) : Bool :=
  names.any fun name => loose name.toList == key

/-- Classes that join several general categories. -/
def joined : List (List String × List Runs) := [
  (["LC", "Cased_Letter"],
    [Category.uppercaseLetter, Category.lowercaseLetter, Category.titlecaseLetter]),
  (["L", "Letter"],
    [Category.uppercaseLetter, Category.lowercaseLetter, Category.titlecaseLetter,
      Category.modifierLetter, Category.otherLetter]),
  (["M", "Mark", "Combining_Mark"],
    [Category.nonspacingMark, Category.spacingMark, Category.enclosingMark]),
  (["N", "Number"],
    [Category.decimalNumber, Category.letterNumber, Category.otherNumber]),
  (["P", "Punctuation", "punct"],
    [Category.connectorPunctuation, Category.dashPunctuation, Category.openPunctuation,
      Category.closePunctuation, Category.initialPunctuation, Category.finalPunctuation,
      Category.otherPunctuation]),
  (["S", "Symbol"],
    [Category.mathSymbol, Category.currencySymbol, Category.modifierSymbol,
      Category.otherSymbol]),
  (["Z", "Separator"],
    [Category.spaceSeparator, Category.lineSeparator, Category.paragraphSeparator]),
  (["C", "Other"],
    [Category.control, Category.format, Category.privateUse, Category.unassigned]),
  (["cntrl"], [Category.control]),
  (["digit"], [Category.decimalNumber]),
  (["ASCII"], [[(0, 0x7F)]]),
  (["Any"], [[(0, 0x10FFFF)]]),
  (["Assigned"], Category.named.filterMap fun (short, _, runs) =>
    if short = "Cn" then none else some runs)]

def category? (key : List Char) : Option (List Runs) :=
  match Category.named.find? fun (short, long, _) => isOneOf key [short, long] with
  | some (_, _, runs) => some [runs]
  | none => (joined.find? fun entry => isOneOf key entry.1).map (·.2)

def script? (key : List Char) : Option Script :=
  Script.all.find? fun s => isOneOf key (s.name :: s.others)

def property? (key : List Char) : Option Runs :=
  (Property.named.find? fun (long, short, _) =>
    isOneOf key [long, short] || (long == "White_Space" && isOneOf key ["space"])).map (·.2.2)

/-- The characters that a single name stands for: a property, a general category or a script,
in this order. -/
def lookup? (name : List Char) : Option (List Runs) :=
  let key := loose name
  (property? key).map ([·]) <|> category? key <|> (script? key).map ([·.characters])

def value? (values : List Value) (key : List Char) : Option (List Runs) :=
  (values.find? (isOneOf key ·.names)).map ([·.characters])

/-- The characters of a version and all versions before it. -/
def age? (key : List Char) : Option (List Runs) :=
  let older := Value.age.takeWhile fun v => !isOneOf key v.names
  (Value.age.find? (isOneOf key ·.names)).map fun v => (older ++ [v]).map (·.characters)

def lookupValue? (name value : List Char) : Option (List Runs) :=
  let key := loose name
  let wanted := loose value
  if isOneOf key ["General_Category", "gc"] then category? wanted
  else if isOneOf key ["Script", "sc"] then (script? wanted).map ([·.characters])
  else if isOneOf key ["Script_Extensions", "scx"] then (script? wanted).map ([·.extension])
  else if isOneOf key ["Age"] then age? wanted
  else if isOneOf key ["Grapheme_Cluster_Break", "GCB"] then value? Value.graphemeBreak wanted
  else if isOneOf key ["Word_Break", "WB"] then value? Value.wordBreak wanted
  else if isOneOf key ["Sentence_Break", "SB"] then value? Value.sentenceBreak wanted
  else none

end Highlighting.Unicode.Named
