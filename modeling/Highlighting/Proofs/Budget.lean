import Highlighting.Pattern

/-! A larger budget changes no answer. Runs never look at what is left of the budget, except to give up
when nothing is; so a run that does not stop at a limit does the same with more budget, and as much
more is left of it. The limit on open choices belongs to the program and stays as it is. -/
namespace Highlighting.Pattern

namespace Program

/-- The second outcome is the first one with `extra` more left over, unless the first one has stopped
at a limit. -/
def Outcome.Extends (extra : Nat) : Outcome → Outcome → Prop
  | .found s left, outcome => outcome = .found s (left + extra)
  | .failed height left, outcome => outcome = .failed height (left + extra)
  | .stopped .limit, _ => True
  | .stopped (.fault fault), outcome => outcome = .stopped (.fault fault)

/-- What follows on a way that was tried at `s` as one more choice: `next` if the choice is resumed. -/
def Outcome.followed (found next : Continuation) (s : State) : Outcome → Outcome
  | .found t left => found t left
  | .failed height left =>
    if s.height < height then
      match left with
      | 0 => .stopped .limit
      | left + 1 => next s left
    else .failed height left
  | .stopped why => .stopped why

def Steady (way : Continuation) : Prop :=
  ∀ s budget extra, (way s budget).Extends extra (way s (budget + extra))

variable {g : Ground} {first second found next : Continuation}

theorem Outcome.Extends.followed {outcome outcome' : Outcome} {extra : Nat}
    (same : outcome.Extends extra outcome') (steadyFound : Steady found) (steady : Steady next)
    (s : State) :
    (outcome.followed found next s).Extends extra (outcome'.followed found next s) := by
  cases outcome with
  | stopped why =>
    cases why with
    | limit => trivial
    | fault fault => cases same; rfl
  | found t left =>
    cases same
    exact steadyFound t left extra
  | failed height left =>
    cases same
    by_cases resumed : s.height < height
    · simp only [Outcome.followed,resumed,if_true]
      cases left with
      | zero => trivial
      | succ left =>
        simp only [Nat.add_right_comm left 1 extra]
        exact steady s left extra
    · simp only [Outcome.followed,resumed,if_false]
      rfl

theorem steady_found : Steady .found := fun _ _ _ => rfl

theorem steady_fail (reached : State → State) : Steady fun s budget => (reached s).fail budget :=
  fun _ _ _ => rfl

theorem steady_withChoice (steady : Steady first) : Steady (withChoice first) := by
  intro s budget extra
  simp only [withChoice]
  split
  · exact steady _ budget extra
  · trivial

theorem choose_eq (s : State) (budget : Nat) :
    choose first second s budget = (withChoice first s budget).followed .found second s := by
  rw [choose]
  cases withChoice first s budget <;> rfl

theorem steady_choose (steady : Steady first) (steady' : Steady second) :
    Steady (choose first second) := by
  intro s budget extra
  rw [choose_eq,choose_eq]
  exact (steady_withChoice steady s budget extra).followed steady_found steady' s

theorem steady_repeatRun {body : Continuation → Continuation}
    (copy : ∀ next, Steady next → Steady (body next)) {least : Nat} {most : Option Nat}
    {greedy guarded : Bool} (steady : Steady next) (fuel count : Nat) (last : Option Nat) :
    Steady (repeatRun body least most greedy guarded next fuel count last) := by
  induction fuel generalizing count last with
  | zero => exact fun _ _ _ => trivial
  | succ fuel ih =>
    intro s budget extra
    have again (last) := copy _ (ih (count + 1) last)
    simp only [repeatRun]
    split
    · exact steady s budget extra
    split
    · rfl
    split
    · exact again _ s budget extra
    split
    · exact steady_choose (again _) steady s budget extra
    · exact steady_choose steady (again _) s budget extra

def inside (g : Ground) (back : Nat) (body : Program) : Continuation := fun s budget =>
  match s.place.back? back with
  | none => s.fail budget
  | some place => run g body .found { s with place } budget

theorem run_notAround {back : Nat} {body : Program} (s : State) (budget : Nat) :
    (notAround back body).run g next s budget =
      (withChoice (inside g back body) s budget).followed (fun _ left => s.fail left) next s := by
  rw [run]
  rfl

/-- A program goes the same way with more budget if what comes behind it does. -/
theorem steady_run (g : Ground) (p : Program) (steady : Steady next) : Steady (p.run g next) := by
  induction p generalizing next with
  | nothing => exact steady
  | regular e =>
    intro s budget extra
    simp only [run]
    split
    · exact steady _ budget extra
    · rfl
  | group index body ih => exact fun s => ih (fun s => steady _) _
  | seq first second ih ih' => exact fun s => ih (ih' steady) s
  | alt first second ih ih' => exact fun s => steady_choose (ih steady) (ih' steady) s
  | optional body greedy ih =>
    intro s budget extra
    simp only [run]
    split
    · exact steady_choose (ih steady) steady s budget extra
    · exact steady_choose steady (ih steady) s budget extra
  | many body least most greedy guarded ih =>
    exact fun s => steady_repeatRun (fun next steady => ih steady) steady _ 0 none s
  | around back body ih =>
    intro s budget extra
    simp only [run]
    split
    · rfl
    · exact ih (fun t => steady _) _ budget extra
  | notAround back body ih =>
    intro s budget extra
    rw [run_notAround,run_notAround]
    have within : Steady (inside g back body) := by
      intro s budget extra
      simp only [inside]
      split
      · rfl
      · exact ih steady_found _ budget extra
    exact (steady_withChoice within s budget extra).followed (steady_fail fun _ => s) steady s
  | atomic body ih => exact fun s => ih (fun t => steady _) _
  | cond condition yes no ihCondition ihYes ihNo =>
    exact fun s => steady_choose (ihCondition fun t => ihYes steady _) (ihNo steady) _
  | backref index =>
    intro s budget extra
    simp only [run]
    split
    · split
      · rfl
      · split
        · exact steady _ budget extra
        · rfl
    · rfl
  | groupSet index =>
    intro s budget extra
    simp only [run]
    split
    · exact steady s budget extra
    · rfl
  | keepOut => exact fun s => steady _
  | searchStart =>
    intro s budget extra
    simp only [run]
    split
    · rfl
    · exact steady s budget extra

/-- With more budget a search answers the same, unless it gave up with less. -/
theorem searchFrom_steady (p : Program) (g : Ground) (count : Nat) (place : Cursor)
    (budget extra : Nat) :
    p.searchFrom g count place budget = p.searchFrom g count place (budget + extra) ∨
      p.searchFrom g count place budget = .ok none := by
  induction count generalizing place budget with
  | zero => exact .inl rfl
  | succ count ih =>
    have same := steady_run g p steady_found (.initial place) budget extra
    simp only [searchFrom]
    cases outcome : p.run g .found (.initial place) budget with
    | stopped why =>
      cases why with
      | limit => exact .inr rfl
      | fault fault =>
        rw [outcome] at same
        rw [same]
        exact .inl rfl
    | found s left =>
      rw [outcome] at same
      rw [same]
      exact .inl rfl
    | failed height left =>
      rw [outcome] at same
      rw [same]
      cases left with
      | zero => exact .inr rfl
      | succ left =>
        cases place.next? with
        | none => exact .inr rfl
        | some step =>
          simp only [Nat.add_right_comm left 1 extra]
          exact ih step.2 left

end Program

/-- The first match from `place` on, with a limit of its own on the choices that a program may
resume. -/
def Matcher.searchWithin (limit : Nat) : Matcher → Cursor → Except SearchFault (Option Span)
  | .regular e, place => .ok (e.search? place)
  | .program p, place =>
    let text := place.text
    p.searchFrom ⟨text,place.offset,text.length + 1⟩ (place.after.length + 1) place limit

def searchWithin (limit : Nat) (p : Pattern) : Search := fun text offset =>
  match Cursor.at? text offset with
  | some place => p.matcher.searchWithin limit place
  | none => .ok none

theorem search_eq_searchWithin (p : Pattern) : p.search = p.searchWithin Program.budgetLimit := by
  have same : p.matcher.search = p.matcher.searchWithin Program.budgetLimit := by
    cases p.matcher <;> rfl
  funext text offset
  rw [search,searchWithin]
  cases Cursor.at? text offset with
  | none => rfl
  | some place => exact congrFun same place

/-- With a lower limit a pattern is found at the same place or not at all. -/
theorem searchWithin_steady (p : Pattern) (limit extra : Nat) (text : Text) (offset : Nat) :
    p.searchWithin limit text offset = p.searchWithin (limit + extra) text offset ∨
      p.searchWithin limit text offset = .ok none := by
  simp only [searchWithin]
  cases Cursor.at? text offset with
  | none => exact .inl rfl
  | some place =>
    cases p.matcher with
    | regular e => exact .inl rfl
    | program p => exact p.searchFrom_steady _ _ place limit extra

end Highlighting.Pattern
