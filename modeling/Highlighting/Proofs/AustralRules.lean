import Mathlib.Control.Monad.Basic
import Highlighting.Austral
import Highlighting.Proofs.Lines

/-! The rules of Austral with their patterns compiled. The patterns are written out as trees here, so
that what is proved about them does not go through the grammars that read them. -/
namespace Highlighting

deriving instance DecidableEq for Pattern.Regular
deriving instance DecidableEq for Pattern.Program
deriving instance DecidableEq for Pattern.Matcher
deriving instance DecidableEq for Pattern

namespace Pattern

/-- Which groups need a second choice does not matter to a pattern that refers to none. -/
theorem compile?_of_default [Libraries] {source : Text} {pattern : Pattern}
    (accepted : @compile? .default source = some pattern)
    (refersNot : (Extended.parse? source).any (·.refers) = false) :
    compile? source = some pattern := by
  have same : extendedMatcher? source = @extendedMatcher? .default source := by
    simp only [extendedMatcher?]
    cases parsed : Extended.parse? source with
    | none => rfl
    | some e =>
      rw [parsed,Option.any_some] at refersNot
      simp only [bind,Option.bind_some,refersNot,Bool.false_and]
  rw [← accepted]
  simp only [compile?,same]

end Pattern

namespace Austral

open Pattern

def isBlank (c : Char) : Bool := c == ' ' || c == '\n'

def isCapital (c : Char) : Bool := 'A' ≤ c && c ≤ 'Z'

def isDigit (c : Char) : Bool := '0' ≤ c && c ≤ '9'

def isIdentifier (c : Char) : Bool :=
  isCapital c || ('a' ≤ c && c ≤ 'z') || isDigit c || c == '_'

def blankSet : CharSet := .unionAll [.chars [' '],.chars ['\n']]

def withinLineSet : CharSet :=
  .compl (.unionAll [.chars ['\n'],.chars ['\r'],.chars ['\u2028'],.chars ['\u2029']])

def capitalSet : CharSet := .range 'A' 'Z'

def digitSet : CharSet := .range '0' '9'

def identifierSet : CharSet := .unionAll [capitalSet,.range 'a' 'z',digitSet,.chars ['_']]

@[simp] theorem blankSet_contains (c : Char) : blankSet.contains c = isBlank c := by
  simp [blankSet,CharSet.unionAll,CharSet.empty,CharSet.contains,isBlank,beq_eq_decide]

@[simp] theorem withinLineSet_contains (c : Char) :
    withinLineSet.contains c = !Text.endsLine c := by
  simp [withinLineSet,CharSet.unionAll,CharSet.empty,CharSet.contains,Text.endsLine,Bool.or_assoc,
    beq_eq_decide]

@[simp] theorem capitalSet_contains (c : Char) : capitalSet.contains c = isCapital c := rfl

@[simp] theorem digitSet_contains (c : Char) : digitSet.contains c = isDigit c := rfl

@[simp] theorem identifierSet_contains (c : Char) :
    identifierSet.contains c = isIdentifier c := by
  simp [identifierSet,CharSet.unionAll,CharSet.empty,CharSet.contains,capitalSet,digitSet,
    isIdentifier,isCapital,isDigit,Bool.or_assoc,beq_eq_decide]

def spelled : Text → Regular
  | [] => .empty
  | [c] => .one (.chars [c])
  | c :: word => .seq (.one (.chars [c])) (spelled word)

def oneOf : List Text → Regular
  | [] => .one .empty
  | [word] => spelled word
  | word :: words => .alt (spelled word) (oneOf words)

def commentExpression : Regular :=
  .seq (.one (.chars ['-'])) (.seq (.one (.chars ['-'])) (.seq (.many (.one withinLineSet) 0 none true)
    (.group 1 (.alt (.one (.chars ['\n'])) (.look .textEnd)))))

/-- Words after blanks, the first of which may be missing at the start of the text. -/
def wordsExpression (words : List Text) : Regular :=
  .seq (.group 1 (.alt (.look .textStart) (.one blankSet)))
    (.seq (.many (.one blankSet) 0 none true) (.group 2 (oneOf words)))

/-- A character that belongs to no identifier stands before the place. -/
def afterOther : Program := .around 1 (.regular (.one (.compl identifierSet)))

def typeNameProgram : Program :=
  .seq .nothing (.seq afterOther (.seq (.regular (.one capitalSet))
    (.seq (.many (.regular (.one identifierSet)) 0 none true false) (.seq .nothing .nothing))))

def quote : Program := .regular (.one (.chars ['"']))

def literalProgram : Program :=
  .group 1 (.alt
    (.seq quote (.seq (.many (.regular (.one withinLineSet)) 0 none true false)
      (.seq quote .nothing)))
    (.seq .nothing (.seq afterOther (.seq (.regular (.one digitSet)) .nothing))))

def keywords : List Text :=
  ["generic","let","if","end if","then","and","not","instance"].map String.toList

def declarations : List Text :=
  ["typeclass","method","function","body","module","end","union","record","import","is","has"].map
    String.toList

def commentPattern : Pattern := ⟨comment,.regular commentExpression,false⟩

def keywordPattern : Pattern := ⟨keyword,.regular (wordsExpression keywords),false⟩

def declarationPattern : Pattern := ⟨declaration,.regular (wordsExpression declarations),false⟩

def typeNamePattern : Pattern := ⟨typeName,.program typeNameProgram,true⟩

def literalPattern : Pattern := ⟨literal,.program literalProgram,true⟩

/-- The patterns by themselves, and that none of them refers to a group. -/
theorem compile?_default :
    (@compile? .default comment = some commentPattern ∧
      @compile? .default keyword = some keywordPattern ∧
      @compile? .default declaration = some declarationPattern ∧
      @compile? .default typeName = some typeNamePattern ∧
      @compile? .default literal = some literalPattern) ∧
    [comment,keyword,declaration,typeName,literal].all fun source =>
      !(Extended.parse? source).any (·.refers) := by decide +kernel

section

variable [Libraries]

theorem compile?_patterns :
    compile? comment = some commentPattern ∧ compile? keyword = some keywordPattern ∧
      compile? declaration = some declarationPattern ∧ compile? typeName = some typeNamePattern ∧
      compile? literal = some literalPattern := by
  obtain ⟨⟨comment,keyword,declaration,typeName,literal⟩,refersNot⟩ := compile?_default
  simp only [List.all_cons,List.all_nil,Bool.and_true,Bool.and_eq_true,Bool.not_eq_true'] at refersNot
  obtain ⟨comment',keyword',declaration',typeName',literal'⟩ := refersNot
  exact ⟨compile?_of_default comment comment',compile?_of_default keyword keyword',
    compile?_of_default declaration declaration',compile?_of_default typeName typeName',
    compile?_of_default literal literal'⟩

theorem compile?_comment : compile? comment = some commentPattern := compile?_patterns.1

theorem compile?_keyword : compile? keyword = some keywordPattern := compile?_patterns.2.1

theorem compile?_declaration : compile? declaration = some declarationPattern :=
  compile?_patterns.2.2.1

theorem compile?_typeName : compile? typeName = some typeNamePattern := compile?_patterns.2.2.2.1

theorem compile?_literal : compile? literal = some literalPattern := compile?_patterns.2.2.2.2

end

def ruleList (palette : Palette) : List Rule := [
  ⟨"comment".toList,commentPattern,palette.comment⟩,
  ⟨"keyword".toList,keywordPattern,palette.keyword⟩,
  ⟨"declaration".toList,declarationPattern,palette.declaration⟩,
  ⟨"type_name".toList,typeNamePattern,palette.typeName⟩,
  ⟨"literal".toList,literalPattern,palette.literal⟩]

section

variable [Libraries] (palette : Palette)

theorem rules_eq : rules palette = .ok (ruleList palette) := by
  simp only [rules,patterns,Rule.compile?,List.mapM_cons,List.mapM_nil,compile?_comment,
    compile?_keyword,compile?_declaration,compile?_typeName,compile?_literal,Option.map_some]
  rfl

theorem language_eq :
    language palette = .ok ⟨name,["aum".toList,"aui".toList],ruleList palette⟩ :=
  congrArg (Except.map _) (rules_eq palette)

def ruleNamed? (name : Text) : Option Rule :=
  (rules palette).toOption.bind fun rules => rules.find? (·.name == name)

theorem ruleNamed?_eq (name : Text) :
    ruleNamed? palette name = (ruleList palette).find? (·.name == name) := by
  rw [ruleNamed?,rules_eq]
  rfl

end

end Austral

end Highlighting
