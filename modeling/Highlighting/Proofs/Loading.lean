import Mathlib.Data.List.Forall2
import Highlighting.CommandLine
import Highlighting.Proofs.Description
import Highlighting.Proofs.History

/-! Loading rule files. A file describes a language or is refused, and which of the two does not
depend on the registry. The files are added one behind the other up to the first that is refused,
so what has been loaded is a history of languages, the built-in one first. -/
namespace Highlighting

namespace Registry

/-- The registry to which the languages were added, the last of them at the end. -/
def ofList (languages : List Language) : Registry := languages.foldl add empty

section

variable [Libraries]

theorem History.foldl_add {r : Registry} {history : List Language} (grown : History r history)
    (languages : List Language) : History (languages.foldl Registry.add r) (history ++ languages) := by
  induction languages generalizing r history with
  | nil => simpa using grown
  | cons l rest ih => simpa using ih (grown.add l)

theorem History.ofList (languages : List Language) : History (ofList languages) languages :=
  History.empty.foldl_add languages

theorem standard_eq_ofList {austral : Language} (only : Austral.language .standard = .ok austral) :
    standard = ofList [austral] :=
  standard_eq_add only

end

def lastNamed? (languages : List Language) (name : Text) : Option Language :=
  languages.reverse.find? (·.key == Text.lower name)

theorem get?_ofList (languages : List Language) (name : Text) :
    (ofList languages).get? name = lastNamed? languages name :=
  (History.ofList languages).kept.named _

theorem lastNamed?_eq_none_iff {languages : List Language} {name : Text} :
    lastNamed? languages name = none ↔ ∀ l ∈ languages, l.key ≠ Text.lower name := by
  simp [lastNamed?]

end Registry

section

variable [Libraries]

/-- All patterns of the language are compiled from their sources. -/
def Language.Compiled (l : Language) : Prop :=
  ∀ rule ∈ l.rules, Pattern.compile? rule.pattern.source = some rule.pattern

namespace Language

theorem compiled_of_parse {source : Text} {l : Language} (described : parse source = .ok l) :
    l.Compiled := by
  obtain ⟨_,_,describes⟩ := describes_of_parse described
  exact describes.rules.compiled

theorem compiled_builtIn {palette : Palette} {austral : Language}
    (only : Austral.language palette = .ok austral) : austral.Compiled := by
  rw [Austral.language_eq,Except.ok.injEq] at only
  subst only
  obtain ⟨comment,keyword,declaration,typeName,literal⟩ := Austral.compile?_patterns
  simp only [Compiled,Austral.ruleList,List.forall_mem_cons]
  exact ⟨comment,keyword,declaration,typeName,literal,by simp⟩

end Language

namespace CommandLine

variable {s : Surroundings Id}

def Surroundings.Describes (s : Surroundings Id) (path : Text) (l : Language) : Prop :=
  ∃ source, s.readFile path = .ok source ∧ Language.parse source = .ok l

inductive Surroundings.Refuses (s : Surroundings Id) (path : Text) : Problem → Prop
  | unreadable {cause : FileError} (unread : s.readFile path = .error cause) :
      Refuses s path (.unreadable cause)
  | within {source : Text} {problem : Problem} (read : s.readFile path = .ok source)
      (bad : Language.parse source = .error problem) : Refuses s path (.within path problem)

theorem describes_or_refuses (s : Surroundings Id) (path : Text) :
    (∃ l, s.Describes path l) ∨ ∃ problem, s.Refuses path problem := by
  cases read : (s.readFile path : Except FileError Text) with
  | error cause => exact .inr ⟨_,.unreadable read⟩
  | ok source =>
    cases parsed : Language.parse source with
    | error problem => exact .inr ⟨_,.within read parsed⟩
    | ok l => exact .inl ⟨l,source,read,parsed⟩

theorem loadAll_cons (s : Surroundings Id) (registry : Registry) (path : Text) (paths : List Text) :
    s.loadAll registry (path :: paths) =
      match s.readFile path with
      | .error cause => .error (.unreadable cause)
      | .ok source =>
        match registry.addSource path source with
        | .error problem => .error problem
        | .ok (_,registry) => s.loadAll registry paths := rfl

theorem loadAll_described {path : Text} {l : Language} (described : s.Describes path l)
    (registry : Registry) (paths : List Text) :
    s.loadAll registry (path :: paths) = s.loadAll (registry.add l) paths := by
  obtain ⟨source,read,parsed⟩ := described
  have added : registry.addSource path source = .ok (l.name,registry.add l) := by
    rw [Registry.addSource,parsed]
  rw [loadAll_cons,read]
  simp only [added]

theorem loadAll_refused {path : Text} {problem : Problem} (refused : s.Refuses path problem)
    (registry : Registry) (paths : List Text) :
    s.loadAll registry (path :: paths) = .error problem := by
  cases refused with
  | unreadable unread => rw [loadAll_cons,unread]
  | @within source problem read bad =>
    have failed : registry.addSource path source = .error (.within path problem) := by
      rw [Registry.addSource,bad]
    rw [loadAll_cons,read]
    simp only [failed]

/-- Loading goes on behind files that describe languages. -/
theorem loadAll_append {paths : List Text} {languages : List Language}
    (described : List.Forall₂ s.Describes paths languages) (registry : Registry)
    (rest : List Text) :
    s.loadAll registry (paths ++ rest) =
      s.loadAll (languages.foldl Registry.add registry) rest := by
  induction described generalizing registry with
  | nil => rfl
  | cons first _ ih => rw [List.cons_append,loadAll_described first,ih,List.foldl_cons]

/-- All files describe languages, or there is a first one that does not. -/
theorem describe_or_refuses (s : Surroundings Id) (paths : List Text) :
    (∃ languages, List.Forall₂ s.Describes paths languages) ∨
    ∃ before path after languages problem, paths = before ++ path :: after ∧
      List.Forall₂ s.Describes before languages ∧ s.Refuses path problem := by
  induction paths with
  | nil => exact .inl ⟨[],.nil⟩
  | cons path rest ih =>
    rcases describes_or_refuses s path with ⟨l,described⟩ | ⟨problem,refused⟩
    · rcases ih with ⟨languages,later⟩ | ⟨before,first,after,languages,problem,rfl,later,refused⟩
      · exact .inl ⟨l :: languages,.cons described later⟩
      · exact .inr ⟨path :: before,first,after,l :: languages,problem,rfl,.cons described later,
          refused⟩
    · exact .inr ⟨[],path,rest,[],problem,rfl,.nil,refused⟩

theorem compiled_of_described {paths : List Text} {languages : List Language}
    (described : List.Forall₂ s.Describes paths languages) : ∀ l ∈ languages, l.Compiled := by
  induction described with
  | nil => simp
  | cons first _ ih =>
    obtain ⟨_,_,parsed⟩ := first
    exact List.forall_mem_cons.mpr ⟨Language.compiled_of_parse parsed,ih⟩

end CommandLine

end

end Highlighting
