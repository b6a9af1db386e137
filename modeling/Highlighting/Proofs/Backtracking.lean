import Highlighting.Pattern.Extended.Program
import Highlighting.Proofs.Onward

/-! How a run of a program can end. `Leads` says how a match can grow by each part of a program,
without continuations, choices or a budget, and `Breaks` from which matches a part can come to a
group without a text. Every match that a run finds has grown that way, so what all steps keep holds
of every match that a search answers. -/
namespace Highlighting.Pattern.Program

/-- A program can lead from one match to a further one. A part that is only looked at gives back
the place, but keeps its groups and the start of the match. -/
inductive Leads (g : Ground) : Program → Match → Match → Prop where
  | nothing {r} : Leads g .nothing r r
  | regular {e r u} :
      e.matchFrom? g.places ⟨r.place,e.groups.foldl Slots.clear r.slots⟩ = some u →
      Leads g (.regular e) r { r with toReached := u }
  | group {index body r u} :
      Leads g body { r with toReached := r.toReached.setSlot (2 * index) } u →
      Leads g (.group index body) r
        { u with toReached := u.toReached.setSlot (2 * index + 1) }
  | seq {first second r u v} : Leads g first r u → Leads g second u v →
      Leads g (.seq first second) r v
  | altFirst {first second r u} : Leads g first r u → Leads g (.alt first second) r u
  | altSecond {first second r u} : Leads g second r u → Leads g (.alt first second) r u
  | once {body greedy r u} : Leads g body r u → Leads g (.optional body greedy) r u
  | never {body greedy r} : Leads g (.optional body greedy) r r
  | manyDone {body least most greedy guarded r} : least = 0 ∨ most = some 0 →
      Leads g (.many body least most greedy guarded) r r
  | manyMore {body least most greedy guarded r u v} : most ≠ some 0 → Leads g body r u →
      Leads g (.many body (least - 1) (most.map (· - 1)) greedy guarded) u v →
      Leads g (.many body least most greedy guarded) r v
  | around {back body r u place} : r.place.back? back = some place →
      Leads g body { r with place } u → Leads g (.around back body) r { u with place := r.place }
  | notAround {back body r} : Leads g (.notAround back body) r r
  | atomic {body r u} : Leads g body r u → Leads g (.atomic body) r u
  | condYes {condition yes no r u v} : Leads g condition r u → Leads g yes u v →
      Leads g (.cond condition yes no) r v
  | condNo {condition yes no r u} : Leads g no r u → Leads g (.cond condition yes no) r u
  | backref {index r start stop part place} : r.slots.get? (2 * index) = some start →
      r.slots.get? (2 * index + 1) = some stop → g.text.slice? start stop = some part →
      advanceOver? part r.place = some place → Leads g (.backref index) r { r with place }
  | groupSet {index r} : (r.slots.get? (2 * index)).isSome → Leads g (.groupSet index) r r
  | keepOut {r} : Leads g .keepOut r { r with start := r.offset }
  | searchStart {r} : r.offset ≤ g.origin → Leads g .searchStart r r

/-- A program can come to a group that begins behind its end. Bodies of negated parts are run,
too. -/
inductive Breaks (g : Ground) : Program → Match → Prop where
  | group {index body r} : Breaks g body { r with toReached := r.toReached.setSlot (2 * index) } →
      Breaks g (.group index body) r
  | seqFirst {first second r} : Breaks g first r → Breaks g (.seq first second) r
  | seqSecond {first second r u} : Leads g first r u → Breaks g second u →
      Breaks g (.seq first second) r
  | altFirst {first second r} : Breaks g first r → Breaks g (.alt first second) r
  | altSecond {first second r} : Breaks g second r → Breaks g (.alt first second) r
  | optional {body greedy r} : Breaks g body r → Breaks g (.optional body greedy) r
  | manyFirst {body least most greedy guarded r} : Breaks g body r →
      Breaks g (.many body least most greedy guarded) r
  | manyMore {body least most greedy guarded r u} : Leads g body r u →
      Breaks g (.many body (least - 1) (most.map (· - 1)) greedy guarded) u →
      Breaks g (.many body least most greedy guarded) r
  | around {back body r place} : r.place.back? back = some place → Breaks g body { r with place } →
      Breaks g (.around back body) r
  | notAround {back body r place} : r.place.back? back = some place →
      Breaks g body { r with place } → Breaks g (.notAround back body) r
  | atomic {body r} : Breaks g body r → Breaks g (.atomic body) r
  | condition {condition yes no r} : Breaks g condition r → Breaks g (.cond condition yes no) r
  | condYes {condition yes no r u} : Leads g condition r u → Breaks g yes u →
      Breaks g (.cond condition yes no) r
  | condNo {condition yes no r} : Breaks g no r → Breaks g (.cond condition yes no) r
  | backref {index r start stop} : r.slots.get? (2 * index) = some start →
      r.slots.get? (2 * index + 1) = some stop → g.text.slice? start stop = none →
      Breaks g (.backref index) r

/-- How a run ends that resumes no choice any more, and is not stopped at a limit. -/
def Outcome.Final : Outcome → Prop
  | .found .. | .stopped (.fault _) => True
  | .failed .. | .stopped .limit => False

/-- A way of running that comes to a final outcome only where a match has grown along `grows` and
`next` comes to it, or with a fault, where the match `breaks`. -/
def Ends (grows : Match → Match → Prop) (breaks : Match → Prop) (way next : Continuation) : Prop :=
  ∀ s budget o, way s budget = o → o.Final →
    (∃ u middle, grows s.toMatch u.toMatch ∧ next u middle = o) ∨
    breaks s.toMatch ∧ ∃ fault, o = .stopped (.fault fault)

section

variable {grows grows' : Match → Match → Prop} {breaks breaks' : Match → Prop}
  {first second way next : Continuation}

theorem Ends.weaken (ends : Ends grows breaks way next) (weaker : ∀ r u, grows r u → grows' r u)
    (weaker' : ∀ r, breaks r → breaks' r) : Ends grows' breaks' way next := by
  intro s budget o answer final
  rcases ends s budget o answer final with ⟨u,middle,grown,rest⟩ | ⟨broken,fault⟩
  · exact .inl ⟨u,middle,weaker _ _ grown,rest⟩
  · exact .inr ⟨weaker' _ broken,fault⟩

theorem ends_next (stays : ∀ r, grows r r) (next : Continuation) : Ends grows breaks next next :=
  fun s budget _ answer _ => .inl ⟨s,budget,stays s.toMatch,answer⟩

theorem choose_final {s : State} {budget : Nat} {o : Outcome}
    (answer : choose first second s budget = o) (final : o.Final) :
    first { s with height := s.height + 1 } budget = o ∨ ∃ left, second s left = o := by
  simp only [choose,withChoice] at answer
  by_cases room : s.height < heightLimit
  · simp only [room,if_true] at answer
    cases here : first { s with height := s.height + 1 } budget with
    | found u left => rw [here] at answer; exact .inl answer
    | stopped why => rw [here] at answer; exact .inl answer
    | failed height left =>
      rw [here] at answer
      simp only at answer
      by_cases resumed : s.height < height
      · simp only [resumed,if_true] at answer
        cases left with
        | zero => subst answer; cases final
        | succ left => exact .inr ⟨left,answer⟩
      · simp only [resumed,if_false] at answer
        subst answer
        cases final
  · simp only [room,if_false] at answer
    subst answer
    cases final

theorem choose_ends (ends : Ends grows breaks first next) (ends' : Ends grows breaks second next) :
    Ends grows breaks (choose first second) next := by
  intro s budget o answer final
  rcases choose_final answer final with answer | ⟨left,answer⟩
  · exact ends { s with height := s.height + 1 } budget o answer final
  · exact ends' s left o answer final

end

@[simp] theorem endAtomic_toMatch (s : State) : (endAtomic s).toMatch = s.toMatch := by
  rcases s with ⟨m,_ | ⟨mark,marks⟩,height⟩ <;> rfl

/-- A repetition that has made `count` copies can lead to what is left of it. -/
theorem repeatRun_ends {g : Ground} {body : Program} {least : Nat} {most : Option Nat}
    {greedy guarded : Bool} {next : Continuation}
    (copy : ∀ next, Ends (Leads g body) (Breaks g body) (body.run g next) next) (fuel count : Nat)
    (last : Option Nat) (within : ∀ m, most = some m → count ≤ m) :
    Ends (Leads g (.many body (least - count) (most.map (· - count)) greedy guarded))
      (Breaks g (.many body (least - count) (most.map (· - count)) greedy guarded))
      (repeatRun (body.run g) least most greedy guarded next fuel count last) next := by
  induction fuel generalizing count last with
  | zero => intro s budget o answer final; subst answer; cases final
  | succ fuel ih =>
    intro s budget o answer final
    simp only [repeatRun] at answer
    by_cases full : most = some count
    · simp only [full,if_true] at answer
      exact .inl ⟨s,budget,.manyDone (.inr (by simp [full])),answer⟩
    simp only [full,if_false] at answer
    split at answer
    · subst answer; cases final
    have room : most.map (· - count) ≠ some 0 := by
      cases most with
      | none => simp
      | some m =>
        have le := within m rfl
        simp only [Option.some.injEq] at full
        simp only [Option.map_some,ne_eq,Option.some.injEq]
        omega
    have within' : ∀ m, most = some m → count + 1 ≤ m := by
      intro m bound
      have le := within m bound
      have ne : m ≠ count := fun same => full (by rw [bound,same])
      omega
    -- One copy more is a copy and then the repetition with one more copy done.
    have again (last) : Ends
        (Leads g (.many body (least - count) (most.map (· - count)) greedy guarded))
        (Breaks g (.many body (least - count) (most.map (· - count)) greedy guarded))
        (body.run g (repeatRun (body.run g) least most greedy guarded next fuel (count + 1) last))
        next := by
      intro s budget o answer final
      rcases copy _ s budget o answer final with ⟨u,middle,leads,answer⟩ | ⟨broken,fault⟩
      · rcases ih (count + 1) last within' u middle o answer final with
          ⟨v,middle,others,answer⟩ | ⟨broken,fault⟩
        · refine .inl ⟨v,middle,.manyMore room leads ?_,answer⟩
          rw [Option.map_map]
          simpa [Function.comp_def,Nat.sub_sub] using others
        · refine .inr ⟨.manyMore leads ?_,fault⟩
          rw [Option.map_map]
          simpa [Function.comp_def,Nat.sub_sub] using broken
      · exact .inr ⟨.manyFirst broken,fault⟩
    by_cases few : count < least
    · simp only [few,if_true] at answer
      exact again last s budget o answer final
    · simp only [few,if_false] at answer
      have done : Ends
          (Leads g (.many body (least - count) (most.map (· - count)) greedy guarded))
          (Breaks g (.many body (least - count) (most.map (· - count)) greedy guarded))
          next next := ends_next (fun r => .manyDone (.inl (by omega))) next
      split at answer
      · exact choose_ends (again _) done s budget o answer final
      · exact choose_ends done (again _) s budget o answer final

/-- A final outcome lies behind a match to which the program leads, or the program breaks. -/
theorem run_ends (g : Ground) (p : Program) (next : Continuation) :
    Ends (Leads g p) (Breaks g p) (p.run g next) next := by
  induction p generalizing next with
  | nothing => exact ends_next (fun _ => .nothing) next
  | regular e =>
    intro s budget o answer final
    simp only [run] at answer
    split at answer
    · next r found => exact .inl ⟨{ s with toReached := r },budget,.regular found,answer⟩
    · subst answer; cases final
  | group index body ih =>
    intro s budget o answer final
    rcases ih _ _ budget o answer final with ⟨u,middle,leads,answer⟩ | ⟨broken,fault⟩
    · exact .inl ⟨_,middle,.group leads,answer⟩
    · exact .inr ⟨.group broken,fault⟩
  | seq first second ih ih' =>
    intro s budget o answer final
    rcases ih _ s budget o answer final with ⟨u,middle,leads,answer⟩ | ⟨broken,fault⟩
    · rcases ih' next u middle o answer final with ⟨v,middle,leads',answer⟩ | ⟨broken,fault⟩
      · exact .inl ⟨v,middle,.seq leads leads',answer⟩
      · exact .inr ⟨.seqSecond leads broken,fault⟩
    · exact .inr ⟨.seqFirst broken,fault⟩
  | alt first second ih ih' =>
    exact choose_ends ((ih next).weaken (fun _ _ => .altFirst) fun _ => .altFirst)
      ((ih' next).weaken (fun _ _ => .altSecond) fun _ => .altSecond)
  | optional body greedy ih =>
    have once : Ends (Leads g (.optional body greedy)) (Breaks g (.optional body greedy))
        (body.run g next) next := (ih next).weaken (fun _ _ => .once) fun _ => .optional
    have never : Ends (Leads g (.optional body greedy)) (Breaks g (.optional body greedy))
        next next := ends_next (fun _ => .never) next
    intro s budget o answer final
    cases greedy with
    | true => exact choose_ends once never s budget o answer final
    | false => exact choose_ends never once s budget o answer final
  | many body least most greedy guarded ih =>
    intro s budget o answer final
    simpa using repeatRun_ends ih (g.copies least most) 0 none (fun _ _ => Nat.zero_le _) s budget
      o answer final
  | around back body ih =>
    intro s budget o answer final
    simp only [run] at answer
    split at answer
    · subst answer; cases final
    · next place step =>
      rcases ih _ _ budget o answer final with ⟨u,middle,leads,answer⟩ | ⟨broken,fault⟩
      · exact .inl ⟨{ u with place := s.place },middle,.around step leads,answer⟩
      · exact .inr ⟨.around step broken,fault⟩
  | notAround back body ih =>
    intro s budget o answer final
    simp only [run,withChoice] at answer
    split at answer
    · subst answer; cases final
    · split at answer
      · split at answer
        · subst answer; cases final
        · next left _ => exact .inl ⟨s,left,.notAround,answer⟩
      · subst answer; cases final
    -- A stop of the body is one of the whole, so the body has broken if it is a fault.
    · next why stops =>
      split at stops
      · cases step : s.place.back? back with
        | none => simp [step,State.fail] at stops
        | some place =>
          simp only [step] at stops
          subst answer
          rcases ih .found _ budget _ stops final with ⟨u,middle,_,same⟩ | ⟨broken,fault⟩
          · contradiction
          · exact .inr ⟨.notAround step broken,fault⟩
      · cases stops
        subst answer
        cases final
  | atomic body ih =>
    intro s budget o answer final
    rcases ih _ _ budget o answer final with ⟨u,middle,leads,answer⟩ | ⟨broken,fault⟩
    · exact .inl ⟨_,middle,by rw [endAtomic_toMatch]; exact .atomic leads,answer⟩
    · exact .inr ⟨.atomic broken,fault⟩
  | cond condition yes no ihCondition ihYes ihNo =>
    intro s budget o answer final
    rcases choose_final answer final with answer | ⟨left,answer⟩
    · rcases ihCondition _ _ budget o answer final with ⟨u,middle,leads,answer⟩ | ⟨broken,fault⟩
      · have rest := ihYes next _ middle o answer final
        rw [endAtomic_toMatch] at rest
        rcases rest with ⟨v,middle,leads',answer⟩ | ⟨broken,fault⟩
        · exact .inl ⟨v,middle,.condYes leads leads',answer⟩
        · exact .inr ⟨.condYes leads broken,fault⟩
      · exact .inr ⟨.condition broken,fault⟩
    · rcases ihNo next _ left o answer final with ⟨u,middle,leads,answer⟩ | ⟨broken,fault⟩
      · exact .inl ⟨u,middle,.condNo leads,answer⟩
      · exact .inr ⟨.condNo broken,fault⟩
  | backref index =>
    intro s budget o answer final
    simp only [run] at answer
    split at answer
    · next start stop isStart isStop =>
      split at answer
      · next broken => exact .inr ⟨.backref isStart isStop broken,_,answer.symm⟩
      · next part isPart =>
        split at answer
        · next place copy =>
          exact .inl ⟨{ s with place },budget,.backref isStart isStop isPart copy,answer⟩
        · subst answer; cases final
    · subst answer; cases final
  | groupSet index =>
    intro s budget o answer final
    simp only [run] at answer
    split at answer
    · next isSet => exact .inl ⟨s,budget,.groupSet isSet,answer⟩
    · subst answer; cases final
  | keepOut => exact fun s budget o answer final => .inl ⟨_,budget,.keepOut,answer⟩
  | searchStart =>
    intro s budget o answer final
    simp only [run] at answer
    split at answer
    · subst answer; cases final
    · next notBehind => exact .inl ⟨s,budget,.searchStart (Nat.not_lt.mp notBehind),answer⟩

/-- A match of a search ends where the program leads from a place onward of that of the search, and
a search without an answer has broken from such a place. -/
theorem searchFrom_cases (p : Program) (g : Ground) (count : Nat) (place : Cursor) (budget : Nat) :
    match p.searchFrom g count place budget with
    | .ok none => True
    | .ok (some m) => ∃ first u, place.Onward first ∧ Leads g p (State.initial first).toMatch u ∧
        m = ⟨min u.start u.offset,u.offset⟩
    | .error _ => ∃ first, place.Onward first ∧ Breaks g p (State.initial first).toMatch := by
  induction count generalizing place budget with
  | zero => trivial
  | succ count ih =>
    have here := run_ends g p .found (.initial place) budget _ rfl
    simp only [searchFrom]
    cases outcome : p.run g .found (.initial place) budget with
    | found s rest =>
      rw [outcome] at here
      rcases here trivial with ⟨u,middle,leads,same⟩ | ⟨_,fault,same⟩
      · cases same
        exact ⟨place,_,.refl _,leads,rfl⟩
      · contradiction
    | stopped why =>
      cases why with
      | limit => trivial
      | fault fault =>
        rw [outcome] at here
        rcases here trivial with ⟨u,middle,_,same⟩ | ⟨broken,_⟩
        · contradiction
        · exact ⟨place,.refl _,broken⟩
    | failed height rest =>
      cases rest with
      | zero => trivial
      | succ rest =>
        cases step : place.next? with
        | none => trivial
        | some pair =>
          have onward := Cursor.next?_onward step
          have later := ih pair.2 rest
          simp only
          split at later
          · trivial
          · obtain ⟨first,u,onward',leads,same⟩ := later
            exact ⟨first,u,onward.trans onward',leads,same⟩
          · obtain ⟨first,onward',broken⟩ := later
            exact ⟨first,onward.trans onward',broken⟩

variable {p : Program} {g : Ground} {count budget : Nat} {place : Cursor}

theorem searchFrom_found {m : Span} (found : p.searchFrom g count place budget = .ok (some m)) :
    ∃ first u, place.Onward first ∧ Leads g p (State.initial first).toMatch u ∧
      m = ⟨min u.start u.offset,u.offset⟩ := by
  have result := searchFrom_cases p g count place budget
  rwa [found] at result

theorem searchFrom_broken {fault : SearchFault}
    (failed : p.searchFrom g count place budget = .error fault) :
    ∃ first, place.Onward first ∧ Breaks g p (State.initial first).toMatch := by
  have result := searchFrom_cases p g count place budget
  rwa [failed] at result

end Highlighting.Pattern.Program
