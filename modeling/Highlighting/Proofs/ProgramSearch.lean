import Highlighting.Proofs.Occurrence
import Highlighting.Proofs.Preference

/-! What a search for a program answers. A search that does not give up goes through all starts in
order and takes the preferred way from the first start from which there is a way. -/
namespace Highlighting.Pattern.Program

def preferred (g : Ground) (p : Program) (place : Cursor) : Option Match :=
  (p.ways g (State.initial place).toMatch).head?

/-- Whether a search gives up: the run from a start stops at a limit, or nothing is left of the budget
with which to go on to the next start. -/
def givesUpFrom (p : Program) (g : Ground) : Nat → Cursor → Nat → Bool
  | 0, _, _ => false
  | count + 1, place, budget =>
    match p.run g .found (.initial place) budget with
    | .found _ _ => false
    | .failed _ budget =>
      match budget, place.next? with
      | budget + 1, some (_, next) => givesUpFrom p g count next budget
      | 0, some _ => true
      | _, none => false
    | .stopped .limit => true
    | .stopped (.fault _) => false

def givesUp (p : Program) (place : Cursor) : Bool :=
  p.givesUpFrom ⟨place.text,place.offset,place.text.length + 1⟩ (place.after.length + 1) place
    budgetLimit

variable {p : Program} {g : Ground} {place : Cursor}

theorem searchFrom_of_givesUpFrom {count budget : Nat} (up : p.givesUpFrom g count place budget) :
    p.searchFrom g count place budget = .ok none := by
  induction count generalizing place budget with
  | zero => rfl
  | succ count ih =>
    rw [givesUpFrom] at up
    rw [searchFrom]
    cases outcome : p.run g .found (.initial place) budget with
    | found s rest => simp [outcome] at up
    | stopped why =>
      cases why with
      | limit => rfl
      | fault fault => simp [outcome] at up
    | failed height rest =>
      rw [outcome] at up
      cases step : place.next? with
      | none => cases rest <;> rfl
      | some pair =>
        cases rest with
        | zero => rfl
        | succ rest => exact ih (by simpa [step] using up)

/-- A search that gives up answers nothing, whatever there is to be found. -/
theorem search_of_givesUp (up : p.givesUp place) : p.search place = .ok none :=
  searchFrom_of_givesUpFrom up

theorem best_some (m : Match) : best g p some m = (p.ways g m).head? := by
  cases found : p.ways g m <;> simp [best,found]

/-- The span is that of the preferred way from the first place onward from which there is one. -/
structure FirstWay (p : Program) (g : Ground) (place first : Cursor) (u : Match) : Prop where
  onward : place.Onward first
  way : p.preferred g first = some u
  first : ∀ c, place.Onward c → (p.preferred g c).isSome → first.offset ≤ c.offset

theorem searchFrom_preferred (free : p.isFree) (count budget : Nat)
    (enough : place.after.length < count) (lasts : p.givesUpFrom g count place budget = false) :
    match p.searchFrom g count place budget with
    | .error _ => False
    | .ok none => ∀ c, place.Onward c → p.preferred g c = none
    | .ok (some m) => ∃ first u, p.FirstWay g place first u ∧ m = ⟨min u.start u.offset,u.offset⟩ := by
  induction count generalizing place budget with
  | zero => omega
  | succ count ih =>
    have told := run_exact free found_exact (g := g) (State.initial place) budget
    rw [best_some,← preferred] at told
    cases outcome : p.run g .found (.initial place) budget with
    | stopped why =>
      rw [outcome] at told
      cases why with
      | limit => simp [givesUpFrom,outcome] at lasts
      | fault fault => exact told.elim
    | found s rest =>
      rw [outcome] at told
      simp only [searchFrom,outcome]
      exact ⟨place,s.toMatch,⟨.refl _,told,fun c onward _ => onward.offset⟩,rfl⟩
    | failed height rest =>
      rw [outcome] at told
      cases step : place.next? with
      | none =>
        have atEnd := Cursor.next?_eq_none.mp step
        simp only [searchFrom,outcome,step]
        intro c onward
        rcases onward.eq_or_lt with rfl | less
        · exact told.1
        · simp [atEnd] at less
      | some pair =>
        obtain ⟨ch,next⟩ := pair
        cases rest with
        | zero => simp [givesUpFrom,outcome,step] at lasts
        | succ rest =>
          have reads := Cursor.next?_eq_some.mp step
          have less := Cursor.length_next? step
          have result := @ih next rest (by omega)
            (by simpa [givesUpFrom,outcome,step] using lasts)
          simp only [searchFrom,outcome,step]
          split at result
          · contradiction
          · intro c onward
            rcases onward.eq_or_next step with rfl | onward
            · exact told.1
            · exact result c onward
          · obtain ⟨first,u,isFirst,same⟩ := result
            refine ⟨first,u,⟨reads.onward.trans isFirst.onward,isFirst.way,?_⟩,same⟩
            intro c onward way
            rcases onward.eq_or_next step with rfl | onward
            · simp [told.1] at way
            · exact isFirst.first c onward way

/-- What is answered from a match on if a part with a property is taken: the answer behind the part,
and nothing only if there is no such part. -/
def Takes (part : Text.Property) (answer : Match → Option Match) (m : Match) : Option Match → Prop
  | none => ∀ w d, m.place.Reads w d → ¬ part m.place.before.reverse w d.after
  | some u => ∃ w d, m.place.Reads w d ∧ part m.place.before.reverse w d.after ∧
      answer { m with place := d } = some u

theorem takes_or {part part' : Text.Property} {answer : Match → Option Match} {m : Match}
    {found found' : Option Match} (takes : Takes part answer m found)
    (takes' : Takes part' answer m found') :
    Takes (fun before inside after => part before inside after ∨ part' before inside after) answer m
      (found.or found') := by
  cases found with
  | some u =>
    obtain ⟨w,d,reads,holds,answered⟩ := takes
    exact ⟨w,d,reads,.inl holds,answered⟩
  | none =>
    rw [Option.none_or]
    cases found' with
    | some u =>
      obtain ⟨w,d,reads,holds,answered⟩ := takes'
      exact ⟨w,d,reads,.inr holds,answered⟩
    | none =>
      rintro w d reads (holds | holds)
      · exact takes w d reads holds
      · exact takes' w d reads holds

theorem Takes.congr {part part' : Text.Property} {answer : Match → Option Match} {m : Match}
    {found : Option Match} (takes : Takes part answer m found)
    (same : ∀ before inside after, part before inside after ↔ part' before inside after) :
    Takes part' answer m found := by
  rw [← show part = part' from
    funext fun before => funext fun inside => funext fun after => propext (same before inside after)]
  exact takes

/-- What a program matches, by its preferred ways, is the parts of texts with a property. -/
def Denotes (p : Program) (part : Text.Property) : Prop :=
  ∀ g c, c.after.length < g.places →
    match p.preferred g c with
    | none => ∀ w d, c.Reads w d → ¬ part c.before.reverse w d.after
    | some u => u.start = c.offset ∧ ∃ w, c.Reads w u.place ∧ part c.before.reverse w u.place.after

theorem denotes_of_takes {part : Text.Property}
    (takes : ∀ g c, c.after.length < g.places →
      Takes part some (State.initial c).toMatch (p.preferred g c)) : p.Denotes part := by
  intro g c room
  have here := takes g c room
  split
  · next none =>
    rw [none] at here
    exact here
  · next u some =>
    rw [some] at here
    obtain ⟨w,d,reads,holds,same⟩ := here
    cases same
    exact ⟨rfl,w,reads,holds⟩

theorem search_firstPart {part : Text.Property} (free : p.isFree) (denotes : p.Denotes part)
    (lasts : p.givesUp place = false) :
    ∃ answer, p.search place = .ok answer ∧ Search.FirstPart part place answer := by
  have told {c : Cursor} (onward : place.Onward c) :=
    denotes ⟨place.text,place.offset,place.text.length + 1⟩ c (by
      have le := onward.length_le
      simp only [Cursor.text,List.length_append]
      omega)
  have result := searchFrom_preferred free _ _ (Nat.lt_succ_self _) lasts
  rw [search]
  split at result
  · contradiction
  · next none =>
    refine ⟨_,none,?_⟩
    intro c w d onward reads
    have here := told onward
    rw [result c onward] at here
    exact here w d reads
  · next m some =>
    refine ⟨_,some,?_⟩
    obtain ⟨c,u,isFirst,rfl⟩ := result
    have here := told isFirst.onward
    rw [isFirst.way] at here
    obtain ⟨start,w,reads,holds⟩ := here
    have offset : c.offset ≤ u.offset := reads.onward.offset
    refine ⟨c,w,u.place,isFirst.onward,reads,holds,?_,fun c' w' d' onward reads' holds' => ?_⟩
    · rw [start,Nat.min_eq_left offset]
      rfl
    · refine isFirst.first c' onward ?_
      have there := told onward
      split at there
      · exact absurd holds' (there w' d' reads')
      · next way => simp [way]

end Highlighting.Pattern.Program
