import Mathlib.Data.List.Forall2
import Highlighting.Language
import Highlighting.Proofs.Composition

/-! What a rule file describes. Its entries become rules one by one, in the order of the file, and the
first one with a pattern that no grammar accepts ends the reading. A blank name comes before any
pattern, and what is no rule file at all before the name. -/
namespace Highlighting

section

variable [Libraries]

def RuleEntry.Accepted (entry : RuleEntry) : Prop := ∃ p, Pattern.compile? entry.pattern = some p

namespace RuleFile

variable {file : RuleFile} {position : Nat} {entry : RuleEntry} {entries : List RuleEntry} {rule : Rule}
  {rules : List Rule}

/-- The rule has the pattern of the entry, the name that the entry gives it or else one made from the
position, and the color that the table gives the entry's color or else that color itself. What the
table gives is not looked up again. -/
structure Becomes (file : RuleFile) (position : Nat) (entry : RuleEntry) (rule : Rule) : Prop where
  source : rule.pattern.source = entry.pattern
  compiled : Pattern.compile? entry.pattern = some rule.pattern
  named : ∀ name, entry.name = some name → name ≠ [] → rule.name = name
  unnamed : entry.name = none ∨ entry.name = some [] →
    rule.name = file.name ++ " rule #".toList ++ Digits.decimal position
  listed : ∀ color, Table.get? file.colors entry.color = some color → rule.color = color
  literal : Table.get? file.colors entry.color = none → rule.color = entry.color

theorem becomes_of_compile?
    (compiled : Rule.compile? (entry.title file.name position) entry.pattern
      (file.color entry.color) = some rule) : file.Becomes position entry rule := by
  obtain ⟨p,accepted,rfl⟩ := Option.map_eq_some_iff.mp compiled
  refine ⟨Pattern.compile?_source accepted,accepted,?_,?_,?_,?_⟩
  · intro name given nonempty
    obtain ⟨c,rest,rfl⟩ := List.exists_cons_of_ne_nil nonempty
    simp only [RuleEntry.title,given]
  · rintro (absent | blank)
    · simp only [RuleEntry.title,absent]
    · simp only [RuleEntry.title,blank]
  · intro value listed
    simp only [color,listed,Option.getD_some]
  · intro unlisted
    simp only [color,unlisted,Option.getD_none]

def BecomeAll (file : RuleFile) (position : Nat) (entries : List RuleEntry) (rules : List Rule) :
    Prop :=
  List.Forall₂ (fun numbered rule => file.Becomes numbered.2 numbered.1 rule)
    (entries.zipIdx position) rules

theorem becomeAll_of_compileRules (compiled : file.compileRules position entries = .ok rules) :
    file.BecomeAll position entries rules := by
  induction entries generalizing position rules with
  | nil =>
    cases compiled
    exact .nil
  | cons entry rest ih =>
    rw [compileRules] at compiled
    split at compiled
    · contradiction
    · next rule first =>
      obtain ⟨more,later,rfl⟩ := map_eq_ok_iff.mp compiled
      exact .cons (becomes_of_compile? first) (ih later)

theorem BecomeAll.compiled (become : file.BecomeAll position entries rules) :
    ∀ rule ∈ rules, Pattern.compile? rule.pattern.source = some rule.pattern := by
  induction entries generalizing position rules with
  | nil =>
    cases become
    simp
  | cons entry rest ih =>
    cases become with
    | cons first later =>
      exact List.forall_mem_cons.mpr ⟨first.source ▸ first.compiled,ih later⟩

theorem compileRules_of_accepted (file : RuleFile) (position : Nat)
    (accepted : ∀ entry ∈ entries, entry.Accepted) :
    ∃ rules, file.compileRules position entries = .ok rules := by
  induction entries generalizing position with
  | nil => exact ⟨[],rfl⟩
  | cons entry rest ih =>
    obtain ⟨⟨p,first⟩,later⟩ := List.forall_mem_cons.mp accepted
    obtain ⟨rules,compiled⟩ := ih (position + 1) later
    refine ⟨⟨entry.title file.name position,p,file.color entry.color⟩ :: rules,?_⟩
    simp only [compileRules,Rule.compile?,first,Option.map_some,compiled,Except.map]

def FirstRefused (entries : List RuleEntry) (entry : RuleEntry) : Prop :=
  ∃ before after, entries = before ++ entry :: after ∧ (∀ earlier ∈ before, earlier.Accepted) ∧
    Pattern.compile? entry.pattern = none

theorem compileRules_of_firstRefused (file : RuleFile) (position : Nat)
    (refused : FirstRefused entries entry) :
    file.compileRules position entries = .error (.invalidPattern entry.pattern) := by
  obtain ⟨before,after,rfl,accepted,refused⟩ := refused
  induction before generalizing position with
  | nil => simp only [List.nil_append,compileRules,Rule.compile?,refused,Option.map_none]
  | cons first rest ih =>
    obtain ⟨⟨p,compiled⟩,later⟩ := List.forall_mem_cons.mp accepted
    simp only [List.cons_append,compileRules,Rule.compile?,compiled,Option.map_some,
      ih (position + 1) later,Except.map]

theorem accepted_or_firstRefused (entries : List RuleEntry) :
    (∀ entry ∈ entries, entry.Accepted) ∨ ∃ entry, FirstRefused entries entry := by
  induction entries with
  | nil => simp
  | cons entry rest ih =>
    cases compiled : Pattern.compile? entry.pattern with
    | none => exact .inr ⟨entry,[],rest,rfl,by simp,compiled⟩
    | some p =>
      rcases ih with accepted | ⟨refused,before,after,rfl,accepted,bad⟩
      · exact .inl (List.forall_mem_cons.mpr ⟨⟨p,compiled⟩,accepted⟩)
      · exact .inr ⟨refused,entry :: before,after,rfl,
          List.forall_mem_cons.mpr ⟨⟨p,compiled⟩,accepted⟩,bad⟩

theorem FirstRefused.not_accepted (refused : FirstRefused entries entry) :
    ¬ ∀ e ∈ entries, e.Accepted := by
  obtain ⟨before,after,rfl,_,bad⟩ := refused
  intro accepted
  obtain ⟨p,compiled⟩ := accepted entry (by simp)
  rw [bad] at compiled
  contradiction

omit [Libraries] in
theorem foldl_addExtension (l : Language) (extensions : List Text) :
    extensions.foldl Language.addExtension l =
      { l with extensions := l.extensions ++ extensions.map (·.dropWhile (· == '.')) } := by
  induction extensions generalizing l with
  | nil => simp
  | cons extension rest ih =>
    rw [List.foldl_cons,ih]
    simp [Language.addExtension]

/-- The language has the name of the file, its extensions without the dots in front of them, and one
rule for each entry, in the order of the file. -/
structure Describes (file : RuleFile) (l : Language) : Prop where
  name : l.name = file.name
  extensions : l.extensions = file.extensions.map (·.dropWhile (· == '.'))
  rules : file.BecomeAll 1 file.rules l.rules

theorem language_of_blank (blank : Text.trim file.name = []) :
    file.language = .error .namelessLanguage := by
  rw [language,blank]
  rfl

theorem language_of_name (named : Text.trim file.name ≠ []) :
    file.language = (file.compileRules 1 file.rules).map fun rules =>
      { name := file.name, extensions := file.extensions.map (·.dropWhile (· == '.')), rules } := by
  rw [language,if_neg (by simpa using named)]
  simp only [foldl_addExtension,List.nil_append]

theorem language_cases (file : RuleFile) :
    (Text.trim file.name = [] ∧ file.language = .error .namelessLanguage) ∨
    (Text.trim file.name ≠ [] ∧ ∃ entry, FirstRefused file.rules entry ∧
      file.language = .error (.invalidPattern entry.pattern)) ∨
    (Text.trim file.name ≠ [] ∧ (∀ entry ∈ file.rules, entry.Accepted) ∧
      ∃ l, file.language = .ok l ∧ file.Describes l) := by
  by_cases named : Text.trim file.name = []
  · exact .inl ⟨named,language_of_blank named⟩
  rcases accepted_or_firstRefused file.rules with accepted | ⟨entry,refused⟩
  · obtain ⟨rules,compiled⟩ := compileRules_of_accepted file 1 accepted
    refine .inr (.inr ⟨named,accepted,_,by rw [language_of_name named,compiled]; rfl,rfl,rfl,?_⟩)
    exact becomeAll_of_compileRules compiled
  · refine .inr (.inl ⟨named,entry,refused,?_⟩)
    rw [language_of_name named,compileRules_of_firstRefused file 1 refused]
    rfl

end RuleFile

namespace Language

open RuleFile

theorem describes_of_parse {source : Text} {l : Language} (parsed : parse source = .ok l) :
    ∃ file, RuleFile.parse? source = some file ∧ file.Describes l := by
  cases read : RuleFile.parse? source with
  | none =>
    rw [parse,read] at parsed
    contradiction
  | some file =>
    have outcome : file.language = .ok l := by rw [← parsed,parse,read]
    refine ⟨file,rfl,?_⟩
    rcases language_cases file with
      ⟨_,result⟩ | ⟨_,_,_,result⟩ | ⟨_,_,_,result,describes⟩ <;>
      cases outcome.symm.trans result
    exact describes

/-- What is no rule file is malformed. A rule file is nameless exactly if its name is blank; otherwise
it is refused with the pattern of the first entry that no grammar accepts, exactly if there is such an
entry; and otherwise it describes a language with its name, its extensions and its rules in order. -/
theorem parse_rule_file (source : Text) :
    (RuleFile.parse? source = none → parse source = .error (.malformedRules source)) ∧
    ∀ file, RuleFile.parse? source = some file →
      (parse source = .error .namelessLanguage ↔ Text.trim file.name = []) ∧
      (∀ pattern, parse source = .error (.invalidPattern pattern) ↔ Text.trim file.name ≠ [] ∧
        ∃ entry, FirstRefused file.rules entry ∧ entry.pattern = pattern) ∧
      ((∃ l, parse source = .ok l) ↔
        Text.trim file.name ≠ [] ∧ ∀ entry ∈ file.rules, entry.Accepted) ∧
      ∀ l, parse source = .ok l → file.Describes l := by
  refine ⟨fun refused => by rw [parse,refused],fun file read => ?_⟩
  have outcome : parse source = file.language := by rw [parse,read]
  rw [outcome]
  rcases language_cases file with
    ⟨blank,result⟩ | ⟨named,entry,refused,result⟩ | ⟨named,accepted,l,result,describes⟩
  · simp [result,blank]
  · have unique : ∀ pattern, entry.pattern = pattern ↔
        ∃ other, FirstRefused file.rules other ∧ other.pattern = pattern := by
      intro pattern
      refine ⟨fun same => ⟨entry,refused,same⟩,?_⟩
      rintro ⟨other,refused',rfl⟩
      have first := compileRules_of_firstRefused file 1 refused
      rw [compileRules_of_firstRefused file 1 refused'] at first
      exact (Problem.invalidPattern.inj (Except.error.inj first)).symm
    simp [result,named,refused.not_accepted,unique]
  · have never : ∀ entry, ¬ FirstRefused file.rules entry :=
      fun entry refused => refused.not_accepted accepted
    simpa [result,named,never] using ⟨accepted,describes⟩

end Language

end

namespace Language

open RuleFile

/-- A rule file whose first and last rules are unnamed, and whose colors name each other. -/
def mixedFile : Text :=
  ("name='k'\nextensions=['..a']\n[colors]\nx='y'\ny='z'\n" ++
  "[[rules]]\npattern='a'\ncolor='x'\n[[rules]]\nname='n'\npattern='b'\ncolor='q'\n" ++
  "[[rules]]\nname=''\npattern='c'\ncolor='y'\n").toList

theorem mixedFile_read : RuleFile.parse? mixedFile = some
    ⟨['k'],[['.','.','a']],[(['x'],['y']),(['y'],['z'])],
      [⟨none,['a'],['x']⟩,⟨some ['n'],['b'],['q']⟩,⟨some [],['c'],['y']⟩]⟩ := by
  decide +kernel

/-- A made-up name counts the rules that have a name, too, and the color `x` is the color `y` and not
what `y` is. -/
theorem parse_rule_file_mixed : ∃ l, parse mixedFile = .ok l ∧ l.extensions = [['a']] ∧
    l.rules.map (fun rule => (rule.name,rule.pattern.source,rule.color)) =
      [("k rule #1".toList,['a'],['y']),(['n'],['b'],['q']),("k rule #3".toList,['c'],['z'])] := by
  obtain ⟨-,-,succeeds,describes⟩ := (parse_rule_file mixedFile).2 _ mixedFile_read
  have named : Text.trim ['k'] ≠ [] := by decide +kernel
  have accepted (c : Char) (one : (Pattern.compile? [c]).isSome) : ∃ p, Pattern.compile? [c] = some p :=
    Option.isSome_iff_exists.mp one
  obtain ⟨l,parsed⟩ := succeeds.mpr ⟨named,by
    simpa [RuleEntry.Accepted] using ⟨accepted 'a' (by decide +kernel),
      accepted 'b' (by decide +kernel),accepted 'c' (by decide +kernel)⟩⟩
  obtain ⟨-,extensions,become⟩ := describes l parsed
  refine ⟨l,parsed,extensions,?_⟩
  simp only [BecomeAll,List.zipIdx_cons,List.zipIdx_nil,List.forall₂_cons_left_iff,
    List.forall₂_nil_left_iff] at become
  obtain ⟨first,_,one,⟨second,_,two,⟨third,_,three,rfl,rfl⟩,rfl⟩,rules⟩ := become
  simp only [rules,List.map_cons,List.map_nil,one.source,one.unnamed (.inl rfl),
    one.listed ['y'] rfl,two.source,two.named ['n'] rfl (by simp),two.literal rfl,three.source,
    three.unnamed (.inr rfl),three.listed ['z'] rfl]
  rfl

end Language

end Highlighting
