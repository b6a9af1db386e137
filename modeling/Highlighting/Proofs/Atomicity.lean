import Mathlib.Control.Monad.Basic
import Mathlib.Data.List.Basic
import Highlighting.Registry
import Highlighting.Proofs.Composition

/-! Changes of a registry that fail. A rule file is loaded in steps, and any of them can fail: the file
cannot be read, it is no rule file, its name is blank, one of its patterns is refused. The registry is
touched in the last step alone, so after any number of changes it is as if those that failed had never
been tried. -/
namespace Highlighting.Registry

/-- Steps of work on the registry at hand. What they have changed stays changed when a later one
fails. -/
abbrev Work := ExceptT Problem (StateM Registry)

section

variable [Libraries]

def loadInto (read : Text → Except FileError Text) (path : Text) : Work Text := do
  match read path with
  | .error cause => throw (.unreadable cause)
  | .ok source =>
    match Language.parse source with
    | .error problem => throw (.within path problem)
    | .ok l =>
      modify (·.add l)
      return l.name

inductive Change where
  | add (l : Language)
  | load (path : Text)

namespace Change

def make (read : Text → Except FileError Text) : Change → Work Text
  | add l => do
    modify (·.add l)
    return l.name
  | load path => loadInto read path

/-- The language that a change brings in, or why it fails. The registry has no say in it. -/
def language (read : Text → Except FileError Text) : Change → Except Problem Language
  | add l => .ok l
  | load path =>
    match read path with
    | .error cause => .error (.unreadable cause)
    | .ok source => (Language.parse source).mapError (.within path)

end Change

def makeAll (read : Text → Except FileError Text) (changes : List Change) :
    StateM Registry (List (Except Problem Text)) :=
  changes.mapM fun change => (change.make read).run

def behind (read : Text → Except FileError Text) (changes : List Change) (r : Registry) : Registry :=
  ((makeAll read changes).run r).2

def succeeded (changes : List Change) (answers : List (Except Problem Text)) : List Change :=
  ((changes.zip answers).filter (·.2.isOk)).map (·.1)

variable {read : Text → Except FileError Text}

theorem load_eq (read : Text → Except FileError Text) (path : Text) (r : Registry) :
    r.load read path = ((Change.load path).language read).map fun l => (l.name,r.add l) := by
  simp only [load,Change.language]
  cases read path with
  | error cause => rfl
  | ok source =>
    dsimp only [addSource]
    cases Language.parse source <;> rfl

theorem loadInto_run (read : Text → Except FileError Text) (path : Text) (r : Registry) :
    (loadInto read path).run.run r = match r.load read path with
      | .ok (name,grown) => (.ok name,grown)
      | .error problem => (.error problem,r) := by
  simp only [loadInto,load]
  cases read path with
  | error cause => rfl
  | ok source =>
    dsimp only [addSource]
    cases Language.parse source <;> rfl

theorem make_run (read : Text → Except FileError Text) (change : Change) (r : Registry) :
    (change.make read).run.run r = match change.language read with
      | .ok l => (.ok l.name,r.add l)
      | .error problem => (.error problem,r) := by
  cases change with
  | add l => rfl
  | load path =>
    rw [Change.make,loadInto_run,load_eq]
    cases (Change.load path).language read <;> rfl

theorem makeAll_cons (read : Text → Except FileError Text) (change : Change) (rest : List Change)
    (r : Registry) : (makeAll read (change :: rest)).run r =
      (((change.make read).run.run r).1 ::
          ((makeAll read rest).run ((change.make read).run.run r).2).1,
        ((makeAll read rest).run ((change.make read).run.run r).2).2) := by
  rw [makeAll,List.mapM_cons]
  rfl

/-- What the changes leave behind and what they answer, apart from each other. The languages that came
in are all that the registry sees of them. -/
theorem makeAll_run (read : Text → Except FileError Text) (changes : List Change) (r : Registry) :
    (makeAll read changes).run r =
      (changes.map fun change => (change.language read).map Language.name,
        (changes.filterMap fun change => (change.language read).toOption).foldl add r) := by
  induction changes generalizing r with
  | nil => rfl
  | cons change rest ih =>
    rw [makeAll_cons,make_run]
    cases brought : change.language read with
    | error problem => simp [brought,ih,Except.map,Except.toOption]
    | ok l => simp [brought,ih,Except.map,Except.toOption]

theorem behind_eq (read : Text → Except FileError Text) (changes : List Change) (r : Registry) :
    behind read changes r =
      (changes.filterMap fun change => (change.language read).toOption).foldl add r := by
  rw [behind,makeAll_run]

theorem succeeded_eq (read : Text → Except FileError Text) (changes : List Change) :
    succeeded changes (changes.map fun change => (change.language read).map Language.name) =
      changes.filter fun change => (change.language read).isOk := by
  rw [succeeded,← List.map_prod_left_eq_zip,List.filter_map,List.map_map]
  simp only [Function.comp_def,isOk_map,List.map_id']

/-- Failed changes can be left out. -/
theorem makeAll_succeeded (read : Text → Except FileError Text) (changes : List Change) (r : Registry) :
    (makeAll read (changes.filter fun change => (change.language read).isOk)).run r =
      (((makeAll read changes).run r).1.filter Except.isOk,behind read changes r) := by
  rw [makeAll_run,behind_eq,makeAll_run,List.filter_map,List.filterMap_filter]
  simp only [Function.comp_def,isOk_map,ite_isOk_toOption]

theorem behind_append (read : Text → Except FileError Text) (before : List Change) (change : Change)
    (r : Registry) : behind read (before ++ [change]) r =
      match change.language read with
      | .ok l => (behind read before r).add l
      | .error _ => behind read before r := by
  rw [behind_eq,behind_eq,List.filterMap_append,List.foldl_append]
  cases brought : change.language read <;> simp [brought,Except.toOption]

omit [Libraries] in
theorem require_add (r : Registry) (l : Language) : (r.add l).require l.name = .ok l := by
  have found : (r.add l).get? l.name = some l := (Table.get?_put ..).trans (if_pos rfl)
  rw [require,found]

theorem language_load_eq_ok {path : Text} {l : Language}
    (brought : (Change.load path).language read = .ok l) :
    ∃ source, read path = .ok source ∧ Language.parse source = .ok l := by
  simp only [Change.language] at brought
  split at brought
  · contradiction
  · next source given =>
    cases parsed : Language.parse source with
    | error problem => rw [parsed] at brought; contradiction
    | ok l' =>
      rw [parsed] at brought
      cases brought
      exact ⟨source,given,parsed⟩

/-- After any changes the registry is the one to which those that succeed lead by themselves, in the
same order and with the same answers. A load that fails leaves the registry of that moment as it is.
One that succeeds answers the name under which the language of the file is then found. -/
theorem failures_leave_no_trace {changes : List Change} {r final : Registry}
    {answers : List (Except Problem Text)} (made : (makeAll read changes).run r = (answers,final)) :
    (makeAll read (succeeded changes answers)).run r = (answers.filter Except.isOk,final) ∧
    ∀ before path after, changes = before ++ .load path :: after →
      ∃ answer, answers[before.length]? = some answer ∧
        (behind read before r).load read path =
          answer.map (fun name => (name,behind read (before ++ [.load path]) r)) ∧
        (∀ problem, answer = .error problem →
          behind read (before ++ [.load path]) r = behind read before r) ∧
        ∀ name, answer = .ok name → ∃ source l, read path = .ok source ∧
          Language.parse source = .ok l ∧ l.name = name ∧
          (behind read (before ++ [.load path]) r).require name = .ok l := by
  have given : answers = changes.map fun change => (change.language read).map Language.name := by
    rw [makeAll_run] at made
    exact (congrArg Prod.fst made).symm
  constructor
  · have left : behind read changes r = final := congrArg Prod.snd made
    rw [given,succeeded_eq,makeAll_succeeded,made,left,given]
  · rintro before path after rfl
    refine ⟨((Change.load path).language read).map Language.name,by simp [given],?_⟩
    rw [load_eq,behind_append]
    cases brought : (Change.load path).language read with
    | error problem => simp [Except.map]
    | ok l =>
      obtain ⟨source,readable,parsed⟩ := language_load_eq_ok brought
      refine ⟨rfl,by simp [Except.map],?_⟩
      rintro name named
      obtain rfl : l.name = name := Except.ok.inj named
      exact ⟨source,l,readable,parsed,rfl,require_add _ l⟩

end

def letterRules : Text := "name='k'\nrules=[['r','a','c']]".toList

/-- A rule file of the same name, whose second pattern is refused. -/
def brokenRules : Text := "name='k'\nrules=[['r','a','c'],['s','(','c']]".toList

def twoFiles (path : Text) : Except FileError Text :=
  if path = ['g'] then .ok letterRules else if path = ['b'] then .ok brokenRules else .error .missing

theorem letterRules_described : ∃ l, Language.parse letterRules = .ok l ∧ l.name = ['k'] :=
  exists_ok_of_map_toOption (by decide +kernel)

theorem brokenRules_refused : ∃ problem, Language.parse brokenRules = .error problem := by
  have refused : (Language.parse brokenRules).isOk = false := by decide +kernel
  cases parsed : Language.parse brokenRules with
  | error problem => exact ⟨problem,rfl⟩
  | ok l => rw [parsed] at refused; contradiction

/-- The broken file is tried before and after the good one, and one that does not exist at last. -/
def attempts : List Change := [.load ['b'],.load ['g'],.load ['b'],.load ['m']]

theorem failures_leave_no_trace_broken : ∃ l answers final, Language.parse letterRules = .ok l ∧
    (makeAll twoFiles attempts).run empty = (answers,final) ∧
    (makeAll twoFiles [.load ['g']]).run empty = ([.ok ['k']],final) ∧
    (behind twoFiles [.load ['b'],.load ['g']] empty).require ['k'] = .ok l := by
  obtain ⟨l,described,named⟩ := letterRules_described
  obtain ⟨problem,refused⟩ := brokenRules_refused
  have good : (Change.load ['g']).language twoFiles = .ok l := by
    simp [Change.language,twoFiles,described,Except.mapError]
  have broken : (Change.load ['b']).language twoFiles = .error (.within ['b'] problem) := by
    simp [Change.language,twoFiles,refused,Except.mapError]
  have missing : (Change.load ['m']).language twoFiles = .error (.unreadable .missing) := by
    simp [Change.language,twoFiles]
  have made : (makeAll twoFiles attempts).run empty =
      ([.error (.within ['b'] problem),.ok ['k'],.error (.within ['b'] problem),
        .error (.unreadable .missing)],empty.add l) := by
    rw [makeAll_run]
    simp [attempts,good,broken,missing,named,Except.map,Except.toOption]
  obtain ⟨alone,moments⟩ := failures_leave_no_trace made
  obtain ⟨answer,given,-,-,loaded⟩ := moments [.load ['b']] ['g'] [.load ['b'],.load ['m']] rfl
  obtain rfl : .ok ['k'] = answer := Option.some.inj given
  obtain ⟨source,l',readable,parsed,-,found⟩ := loaded ['k'] rfl
  obtain rfl : letterRules = source := Except.ok.inj readable
  obtain rfl : l = l' := Except.ok.inj (described.symm.trans parsed)
  exact ⟨l,_,_,described,made,alone,found⟩

end Highlighting.Registry
