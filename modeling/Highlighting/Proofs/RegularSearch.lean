import Highlighting.Proofs.Exhaustion

/-! What a search for a regular expression answers: nothing exactly if the expression matches
nowhere onward of its place, and otherwise a match with the first start there is. -/
namespace Highlighting.Pattern

namespace Next

/-- A way of running that finds nothing but what grows along `grows` and then by `next`. -/
def Finds (grows : Cursor → Cursor → Prop) (way next : Next) : Prop :=
  ∀ r seen u, (way r seen).1 = some u →
    ∃ v later, grows r.place v.place ∧ (next v later).1 = some u

variable {grows : Cursor → Cursor → Prop} {first second next : Next}

theorem orElse_finds (finds : Finds grows first next) (finds' : Finds grows second next) :
    Finds grows (orElse first second) next := by
  intro r seen u found
  have here := finds r seen
  rcases answer : first r seen with ⟨_ | v,later⟩
  · simp only [orElse,answer] at found
    exact finds' r later u found
  · simp only [orElse,answer] at found
    exact here u (by rw [answer]; exact found)

theorem choose_finds (g : Grid) (point : Nat) (greedy : Bool) (finds : Finds grows first next)
    (finds' : Finds grows second next) : Finds grows (g.choose point greedy first second) next := by
  intro r seen u found
  simp only [Grid.choose] at found
  split at found
  · contradiction
  · cases greedy with
    | true => exact orElse_finds finds finds' r _ u found
    | false => exact orElse_finds finds' finds r _ u found

theorem Finds.weaken {grows' : Cursor → Cursor → Prop} (finds : Finds grows first next)
    (weaker : ∀ c d, grows c d → grows' c d) : Finds grows' first next := by
  intro r seen u found
  obtain ⟨v,later,grown,found⟩ := finds r seen u found
  exact ⟨v,later,weaker _ _ grown,found⟩

theorem Finds.trans {grows' : Cursor → Cursor → Prop} (finds : Finds grows first second)
    (finds' : Finds grows' second next) :
    Finds (fun c e => ∃ d, grows c d ∧ grows' d e) first next := by
  intro r seen u found
  obtain ⟨v,later,grown,found⟩ := finds r seen u found
  obtain ⟨w,last,grown',found⟩ := finds' v later u found
  exact ⟨w,last,⟨_,grown,grown'⟩,found⟩

theorem finds_next (stays : ∀ c, grows c c) (next : Next) : Finds grows next next :=
  fun r seen _ found => ⟨r,seen,stays _,found⟩

end Next

namespace Unrolled

open Next

theorem again_finds (g : Grid) {body : Unrolled} (point : Nat) (greedy : Bool)
    (part : ∀ next, Finds (Leads g {} body) (body.run g next) next) (next : Next) (fuel : Nat) :
    Finds (Leads g {} (.star point greedy body)) (g.again (body.run g) point greedy next fuel)
      next := by
  induction fuel with
  | zero => intro r seen u found; contradiction
  | succ fuel ih =>
    refine choose_finds g point greedy (((part _).trans ih).weaken ?_)
      (finds_next (fun c => .starDone (by simp)) next)
    rintro c e ⟨d,first,rest⟩
    exact .starMore (by simp) first rest

/-- Whatever a run finds lies behind a place to which the expression leads. -/
theorem run_finds (g : Grid) (a : Unrolled) (next : Next) :
    Finds (Leads g {} a) (a.run g next) next := by
  induction a generalizing next with
  | empty => exact finds_next (fun c => .empty) next
  | slot index => exact fun r seen u found => ⟨r.setSlot index,seen,.slot,found⟩
  | one set =>
    intro r seen u found
    simp only [run] at found
    split at found
    · next ch place step =>
      split at found
      · next member => exact ⟨_,seen,.one (Cursor.next?_eq_some.mp step) member,found⟩
      · contradiction
    · contradiction
  | look condition =>
    intro r seen u found
    simp only [run] at found
    split at found
    · next holds => exact ⟨r,seen,.look holds,found⟩
    · contradiction
  | seq a b ih ih' => exact ((ih _).trans (ih' next)).weaken fun c d leads => leads_seq.mpr leads
  | choice point greedy a b ih ih' =>
    exact choose_finds g point greedy ((ih next).weaken fun c d => .more (by simp))
      ((ih' next).weaken fun c d => .leave (by simp))
  | star point greedy body ih => exact again_finds g point greedy ih next g.places
  | plus point greedy body ih =>
    exact ((ih _).trans (again_finds g point greedy ih next g.places)).weaken
      fun c d leads => leads_plus.mpr leads

end Unrolled

namespace Regular

open Unrolled

/-- What the choices of an expression are followed by if nothing comes behind the expression. -/
def fate (g : Grid) (e : Regular) (p : Nat) : Hope := fun seen c =>
  ∃ d, Behind g seen (e.unroll 0) p c d

theorem fate_fades (g : Grid) (e : Regular) (p : Nat) : (e.fate g p).Fades := by
  rintro seen later c le ⟨d,behind⟩
  exact ⟨d,behind.fade le⟩

theorem fate_agrees (g : Grid) (e : Regular) :
    Agrees g (e.unroll 0) (fun _ _ => True) (e.fate g) := by
  intro p member seen c
  simp [fate]

variable {g : Grid} {e : Regular} {place : Cursor} {seen later : Seen}

theorem run_eq_some {u : Reached} (found : e.run g 0 .accept ⟨place,[]⟩ seen = (some u,later)) :
    e.Matches place u.place := by
  rw [← run_unroll] at found
  obtain ⟨v,last,leads,same⟩ := run_finds g _ _ ⟨place,[]⟩ seen u (by rw [found])
  cases same
  exact (leads_unroll_iff g e 0 _ _).mp leads

/-- A run that fails, after others that failed, leaves nothing unmatched that could be matched. -/
theorem run_eq_none (failed : e.run g 0 .accept ⟨place,[]⟩ seen = (none,later))
    (spent : Spent g (e.fate g) place.text seen) (origin : g.origin ≤ place.offset)
    (room : place.after.length < g.places) :
    Spent g (e.fate g) place.text later ∧ ∀ d, ¬ e.Matches place d := by
  have nodup := (e.unroll_within 0).nodup
  have exhausts : Exhausts g (e.fate g) (before g (e.unroll 0) fun _ _ => True)
      ((e.unroll 0).run g .accept) ⟨place,[]⟩ seen :=
    run_exhausts (fate_fades g e) (e.unroll 0) nodup (fun _ _ _ _ h => h) (fate_agrees g e)
      origin room (fun d later _ _ last failed => by cases failed)
  rw [run_unroll] at exhausts
  obtain ⟨le,hopeless,spent'⟩ := exhausts later failed
  have spent : Spent g (e.fate g) place.text later := by
    intro c p inText atOrigin has
    rcases spent' c p inText atOrigin has with has | spent'
    · exact fun rest => spent c p inText atOrigin has (fate_fades g e p _ _ _ le rest)
    · exact spent'
  refine ⟨spent,fun d matched => hopeless ?_⟩
  exact ((leads_unroll_iff g e 0 _ _).mpr matched).avoid spent nodup (fate_agrees g e) rfl origin
    trivial

/-- The expression matches from a place on, and from no place between that and `place`. -/
structure FirstMatch (e : Regular) (place first last : Cursor) : Prop where
  onward : place.Onward first
  matched : e.Matches first last
  first : ∀ c d, place.Onward c → e.Matches c d → first.offset ≤ c.offset

theorem searchFrom?_first (count : Nat) (spent : Spent g (e.fate g) place.text seen)
    (origin : g.origin ≤ place.offset) (room : place.after.length < g.places)
    (enough : place.after.length < count) :
    match e.searchFrom? g count place seen with
    | none => ∀ c d, place.Onward c → ¬ e.Matches c d
    | some m => ∃ first last, e.FirstMatch place first last ∧ m = ⟨first.offset,last.offset⟩ := by
  induction count generalizing place seen with
  | zero => omega
  | succ count ih =>
    rcases answer : e.run g 0 .accept ⟨place,[]⟩ seen with ⟨_ | u,later⟩
    · obtain ⟨spent,here⟩ := run_eq_none answer spent origin room
      cases step : place.next? with
      | none =>
        have atEnd := Cursor.next?_eq_none.mp step
        simp only [searchFrom?,answer,step]
        intro c d onward
        rcases onward.eq_or_lt with rfl | less
        · exact here d
        · simp [atEnd] at less
      | some pair =>
        obtain ⟨ch,next⟩ := pair
        have reads := Cursor.next?_eq_some.mp step
        have less := Cursor.length_next? step
        have result := @ih next later (by rw [reads.text]; exact spent)
          (Nat.le_trans origin reads.onward.offset)
          (Nat.lt_of_le_of_lt reads.onward.length_le room)
          (by omega)
        simp only [searchFrom?,answer,step]
        split at result
        · next none =>
          intro c d onward
          rcases onward.eq_or_next step with rfl | onward
          · exact here d
          · exact result c d onward
        · next m some =>
          obtain ⟨first,last,isFirst,same⟩ := result
          refine ⟨first,last,⟨reads.onward.trans isFirst.onward,isFirst.matched,?_⟩,same⟩
          intro c d onward matched
          rcases onward.eq_or_next step with rfl | onward
          · exact absurd matched (here d)
          · exact isFirst.first c d onward matched
    · simp only [searchFrom?,answer]
      exact ⟨place,u.place,⟨.refl _,run_eq_some answer,fun c d onward _ => onward.offset⟩,rfl⟩

theorem search?_first (e : Regular) (place : Cursor) :
    match e.search? place with
    | none => ∀ c d, place.Onward c → ¬ e.Matches c d
    | some m => ∃ first last, e.FirstMatch place first last ∧ m = ⟨first.offset,last.offset⟩ := by
  refine searchFrom?_first _ ?_ (Nat.le_refl _) (Nat.lt_succ_self _) (Nat.lt_succ_self _)
  intro c p _ _ has
  simp at has

end Regular

end Highlighting.Pattern
