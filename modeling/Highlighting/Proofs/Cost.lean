import Highlighting.Proofs.ProgramSearch

/-! What a run spends of its budget. Every choice that is resumed costs one unit, and so does the way
to the next start, so that a budget that pays for the runs that fail is enough for a search. -/
namespace Highlighting.Pattern.Program

/-- The run is not stopped, and if it fails, at least `rest` is left of its budget. -/
def Outcome.Leaves (rest : Nat) : Outcome → Prop
  | .found _ _ => True
  | .failed _ left => rest ≤ left
  | .stopped _ => False

/-- From a match on, a run with `room` for more open choices spends at most `cost`. -/
def Costs (room cost : Nat) (way : Continuation) (m : Match) : Prop :=
  ∀ s budget, s.toMatch = m → s.height + room ≤ heightLimit →
    (way s (budget + cost)).Leaves budget

variable {g : Ground} {first second next : Continuation} {m : Match}
  {room room' cost cost' rest rest' : Nat}

theorem Outcome.Leaves.mono {outcome : Outcome} (leaves : outcome.Leaves rest) (le : rest' ≤ rest) :
    outcome.Leaves rest' := by
  cases outcome with
  | found => trivial
  | failed height left => exact Nat.le_trans le leaves
  | stopped why => exact leaves

theorem Costs.mono (costs : Costs room cost next m) (inRoom : room ≤ room') (le : cost ≤ cost') :
    Costs room' cost' next m := by
  intro s budget same enough
  have leaves := costs s (budget + (cost' - cost)) same (by omega)
  rw [show budget + (cost' - cost) + cost = budget + cost' by omega] at leaves
  exact leaves.mono (Nat.le_add_right _ _)

theorem costs_found {last : State → State} :
    Costs room cost (fun s budget => .found (last s) budget) m :=
  fun _ _ _ _ => trivial

theorem costs_choose (costs : Costs room cost first m) (costs' : Costs (room + 1) cost' second m) :
    Costs (room + 1) (cost + 1 + cost') (choose first second) m := by
  intro s budget same enough
  have here := costs { s with height := s.height + 1 } (budget + cost' + 1) same
    (by simp only; omega)
  rw [show budget + cost' + 1 + cost = budget + (cost + 1 + cost') by omega] at here
  simp only [choose,withChoice,show s.height < heightLimit by omega,if_true]
  split
  · next height left failed =>
    rw [failed] at here
    have enoughLeft : budget + cost' + 1 ≤ left := here
    by_cases resumed : s.height < height
    · simp only [resumed,if_true]
      cases left with
      | zero => omega
      | succ left =>
        have there := costs' s (left - cost') same enough
        rw [Nat.sub_add_cancel (by omega)] at there
        exact there.mono (by omega)
    · simp only [resumed,if_false]
      exact Nat.le_trans (by omega) enoughLeft
  · exact here.mono (by omega)

theorem costs_one {set : CharSet} (taken : ∀ ch place, set.contains ch → m.place.Reads [ch] place →
    Costs room cost next { m with place }) :
    Costs room cost (run g (.regular (.one set)) next) m := by
  rintro s budget rfl enough
  simp only [run,Regular.matchFrom?,Regular.run,Regular.groups,List.foldl_nil]
  cases step : s.place.next? with
  | none => exact Nat.le_add_right _ _
  | some pair =>
    obtain ⟨ch,place⟩ := pair
    by_cases member : set.contains ch
    · simpa [member,Next.accept] using
        taken ch place member (Cursor.next?_eq_some.mp step) { s with place } budget rfl enough
    · simp [member,State.fail,Outcome.Leaves]

theorem costs_group {index : Nat} {body : Program}
    (costs : Costs room cost
      (run g body fun s budget => next (s.setSlot (2 * index + 1)) budget)
      { m with toReached := m.toReached.setSlot (2 * index) }) :
    Costs room cost (run g (.group index body) next) m := by
  rintro s budget rfl enough
  exact costs (s.setSlot (2 * index)) budget rfl enough

theorem costs_around {back : Nat} {body : Program}
    (costs : ∀ place, m.place.back? back = some place →
      Costs room cost (run g body fun s budget => next { s with place := m.place } budget)
        { m with place }) :
    Costs room cost (run g (.around back body) next) m := by
  rintro s budget rfl enough
  simp only [run]
  split
  · next none => exact Nat.le_add_right _ _
  · next place step => exact costs place step { s with place } budget rfl enough

/-- A greedy repetition of a character tries what comes next behind each character that it took. -/
theorem costs_repeatRun {set : CharSet} (fuel count : Nat) (last : Option Nat)
    (enough : m.place.after.length < fuel)
    (each : ∀ place, Costs room cost next { m with place }) :
    Costs (room + (m.place.after.takeWhile set.contains).length + 1)
      (((m.place.after.takeWhile set.contains).length + 1) * (cost + 1))
      (repeatRun (run g (.regular (.one set))) 0 none true false next fuel count last) m := by
  induction fuel generalizing count last m with
  | zero => omega
  | succ fuel ih =>
    have again : Costs (room + (m.place.after.takeWhile set.contains).length)
        ((m.place.after.takeWhile set.contains).length * (cost + 1))
        (run g (.regular (.one set)) (repeatRun (run g (.regular (.one set))) 0 none true false next
          fuel (count + 1) (some m.offset))) m := by
      refine costs_one fun ch place member reads => ?_
      have follows : m.place.after = ch :: place.after := reads.after
      have rest := @ih { m with place } (count + 1) (some m.offset)
        (by simp only [follows,List.length_cons] at enough ⊢; omega) each
      rw [follows,List.takeWhile_cons_of_pos member]
      exact rest
    have chosen := costs_choose again ((each m.place).mono (by omega) (Nat.le_refl cost))
    rw [Nat.add_assoc _ 1,Nat.add_comm 1,← Nat.succ_mul] at chosen
    rintro s budget rfl inRoom
    simpa [repeatRun] using chosen s budget rfl inRoom

theorem costs_star_one {set : CharSet} (enough : m.place.after.length < g.places)
    (each : ∀ place, Costs room cost next { m with place }) :
    Costs (room + (m.place.after.takeWhile set.contains).length + 1)
      (((m.place.after.takeWhile set.contains).length + 1) * (cost + 1))
      (run g (.many (.regular (.one set)) 0 none true false) next) m :=
  costs_repeatRun _ 0 none (by simp only [Ground.copies,Option.getD_none]; omega) each

variable {p : Program} {place : Cursor} {part : Text.Property} {fuel : Cursor → Nat}

/-- The run from a start costs no more than there is fuel for, and unless there is a part to be matched
the fuel does for the next start, too. -/
structure Affords (p : Program) (part : Text.Property) (g : Ground) (fuel : Cursor → Nat) (c : Cursor)
    (cost : Nat) : Prop where
  costs : Costs cost cost (p.run g .found) (State.initial c).toMatch
  inRoom : cost < heightLimit
  enough : cost ≤ fuel c
  rest : (∃ w d, c.Reads w d ∧ part c.before.reverse w d.after) ∨
    ∀ ch d, c.Reads [ch] d → cost + fuel d < fuel c

theorem Affords.leaves {c : Cursor} (affords : Affords p part g fuel c cost) {budget : Nat}
    (enough : fuel c ≤ budget) :
    (p.run g .found (State.initial c) budget).Leaves (budget - cost) := by
  have inRoom := affords.inRoom
  have leaves := affords.costs (State.initial c) (budget - cost) rfl
    (by simp only [State.initial]; omega)
  rwa [Nat.sub_add_cancel (Nat.le_trans affords.enough enough)] at leaves

theorem Denotes.not_part (denotes : p.Denotes part) (free : p.isFree)
    (room : place.after.length < g.places) {budget height left : Nat}
    (failed : p.run g .found (State.initial place) budget = .failed height left) {w : Text}
    {d : Cursor} (reads : place.Reads w d) : ¬ part place.before.reverse w d.after := by
  have told := run_exact free found_exact (g := g) (State.initial place) budget
  rw [failed,best_some,← preferred] at told
  have here := denotes g place room
  rw [told.1] at here
  exact here w d reads

theorem givesUpFrom_eq_false (free : p.isFree) (denotes : p.Denotes part)
    (room : place.after.length < g.places)
    (affords : ∀ c, place.Onward c → ∃ cost, Affords p part g fuel c cost) (count budget : Nat)
    (enough : fuel place ≤ budget) : p.givesUpFrom g count place budget = false := by
  induction count generalizing place budget with
  | zero => rfl
  | succ count ih =>
    obtain ⟨cost,here⟩ := affords place (.refl _)
    have leaves := here.leaves enough
    rw [givesUpFrom]
    cases outcome : p.run g .found (State.initial place) budget with
    | found => rfl
    | stopped why => simp [outcome,Outcome.Leaves] at leaves
    | failed height left =>
      rw [outcome] at leaves
      have enoughLeft : budget - cost ≤ left := leaves
      cases step : place.next? with
      | none => cases left <;> rfl
      | some pair =>
        obtain ⟨ch,d⟩ := pair
        have reads := Cursor.next?_eq_some.mp step
        rcases here.rest with ⟨w,e,taken,holds⟩ | further
        · exact absurd holds (denotes.not_part free room outcome taken)
        · have less := further ch d reads
          cases left with
          | zero => omega
          | succ left =>
            refine ih (Nat.lt_of_le_of_lt reads.onward.length_le room) (fun c onward => ?_) left
              (by omega)
            exact affords c (reads.onward.trans onward)

/-- A search does not give up if it has the budget for all starts. -/
theorem givesUp_eq_false (free : p.isFree) (denotes : p.Denotes part)
    (affords : ∀ g c, place.Onward c → c.after.length < g.places →
      ∃ cost, Affords p part g fuel c cost)
    (enough : fuel place ≤ budgetLimit) : p.givesUp place = false := by
  have room : place.after.length < place.text.length + 1 := by
    simp only [Cursor.text,List.length_append]
    omega
  exact givesUpFrom_eq_false free denotes room
    (fun c onward => affords _ c onward (Nat.lt_of_le_of_lt onward.length_le room)) _ _ enough

end Highlighting.Pattern.Program
