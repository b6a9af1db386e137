import Highlighting.Proofs.Backtracking
import Highlighting.Proofs.Reading

/-! The ways in which a program can lead on from a match, the preferred ones first. A run goes along
these ways until what is next succeeds on one of them. Atomic parts and conditions close choices that
are open, so that their ways do not hang on the program alone, and a reference to a group may have no
way to go on or to fail; programs with them are left out. -/
namespace Highlighting.Pattern.Program

/-- No part of the program closes choices or refers to the text of a group. -/
def isFree : Program → Bool
  | nothing | regular _ | groupSet _ | keepOut | searchStart => true
  | group _ body | optional body _ | many body _ _ _ _ | around _ body | notAround _ body =>
    body.isFree
  | seq first second | alt first second => first.isFree && second.isFree
  | atomic _ | cond _ _ _ | backref _ => false

/-- The ways of a repetition whose first `count` copies are done. -/
def repeatWays (body : Match → List Match) (least : Nat) (most : Option Nat)
    (greedy guarded : Bool) : Nat → Nat → Option Nat → Match → List Match
  | 0, _, _, _ => []
  | fuel + 1, count, last, m =>
    if most = some count then [m]
    else if guarded && count > least && last = some m.offset then []
    else
      let last := if count < least then last else some m.offset
      let again := (body m).flatMap (repeatWays body least most greedy guarded fuel (count + 1) last)
      if count < least then again
      else if greedy then again ++ [m]
      else m :: again

def ways (g : Ground) : Program → Match → List Match
  | nothing, m => [m]
  | regular e, m =>
    ((e.matchFrom? g.places ⟨m.place,e.groups.foldl Slots.clear m.slots⟩).map fun r =>
      { m with toReached := r }).toList
  | group index body, m =>
    (ways g body { m with toReached := m.toReached.setSlot (2 * index) }).map fun u =>
      { u with toReached := u.toReached.setSlot (2 * index + 1) }
  | seq first second, m => (ways g first m).flatMap (ways g second)
  | alt first second, m => ways g first m ++ ways g second m
  | optional body greedy, m => if greedy then ways g body m ++ [m] else m :: ways g body m
  | many body least most greedy guarded, m =>
    repeatWays (ways g body) least most greedy guarded (g.copies least most) 0 none m
  | around back body, m =>
    match m.place.back? back with
    | some place => (ways g body { m with place }).map fun u => { u with place := m.place }
    | none => []
  | notAround back body, m =>
    match m.place.back? back with
    | some place => if (ways g body { m with place }).isEmpty then [m] else []
    | none => [m]
  | groupSet index, m => if (m.slots.get? (2 * index)).isSome then [m] else []
  | keepOut, m => [{ m with start := m.offset }]
  | searchStart, m => if g.origin < m.offset then [] else [m]
  | atomic _, _ | cond _ _ _, _ | backref _, _ => []

def best (g : Ground) (p : Program) (answer : Match → Option Match) (m : Match) : Option Match :=
  (p.ways g m).findSome? answer

variable {g : Ground} {answer answer' : Match → Option Match} {m : Match}

@[simp] theorem best_nothing : best g .nothing answer = answer := by
  funext m
  simp [best,ways]

theorem best_group (index : Nat) (body : Program) :
    best g (.group index body) answer m =
      best g body (fun u => answer { u with toReached := u.toReached.setSlot (2 * index + 1) })
        { m with toReached := m.toReached.setSlot (2 * index) } := by
  simp [best,ways,List.findSome?_map,Function.comp_def]

theorem findSome?_flatMap (xs : List Match) (f : Match → List Match) :
    (xs.flatMap f).findSome? answer = xs.findSome? fun u => (f u).findSome? answer := by
  induction xs with
  | nil => rfl
  | cons u xs ih =>
    rw [List.flatMap_cons,List.findSome?_append,ih,List.findSome?_cons]
    cases (f u).findSome? answer <;> rfl

@[simp] theorem best_seq (first second : Program) :
    best g (.seq first second) answer = best g first (best g second answer) :=
  funext fun _ => findSome?_flatMap _ _

@[simp] theorem best_alt (first second : Program) :
    best g (.alt first second) answer m = (best g first answer m).or (best g second answer m) := by
  simp [best,ways]

theorem best_around {back : Nat} {body : Program} {place : Cursor}
    (step : m.place.back? back = some place) :
    best g (.around back body) answer m =
      best g body (fun u => answer { u with place := m.place }) { m with place } := by
  simp [best,ways,step,List.findSome?_map,Function.comp_def]

theorem ways_one (set : CharSet) :
    ways g (.regular (.one set)) m =
      match m.place.next? with
      | some (ch,next) => if set.contains ch then [{ m with place := next }] else []
      | none => [] := by
  simp only [ways,Regular.matchFrom?,Regular.run,Regular.groups,List.foldl_nil]
  cases m.place.next? with
  | none => rfl
  | some pair =>
    by_cases member : set.contains pair.1
    · simp [member,Next.accept]
    · simp [member]

theorem best_one (set : CharSet) :
    best g (.regular (.one set)) answer m =
      match m.place.next? with
      | some (ch,next) => if set.contains ch then answer { m with place := next } else none
      | none => none := by
  simp only [best,ways_one]
  cases m.place.next? with
  | none => rfl
  | some pair => by_cases member : set.contains pair.1 <;> simp [member]

theorem best_one_eq_some {set : CharSet} {u : Match} :
    best g (.regular (.one set)) answer m = some u ↔
      ∃ ch d, set.contains ch ∧ m.place.Reads [ch] d ∧ answer { m with place := d } = some u := by
  simp only [best_one,← Cursor.next?_eq_some]
  cases m.place.next? with
  | none => simp
  | some pair =>
    obtain ⟨ch,next⟩ := pair
    simp only [Option.some.injEq,Prod.mk.injEq]
    constructor
    · intro found
      split at found
      · next member => exact ⟨ch,next,member,⟨rfl,rfl⟩,found⟩
      · contradiction
    · rintro ⟨_,_,member,⟨rfl,rfl⟩,found⟩
      simpa [member] using found

/-- The answer behind the longest text of characters of a set behind which there is an answer. -/
def Longest (set : CharSet) (answer : Match → Option Match) (m : Match) : Option Match → Prop
  | none => ∀ w d, (∀ ch ∈ w, set.contains ch) → m.place.Reads w d →
      answer { m with place := d } = none
  | some x => ∃ w d, (∀ ch ∈ w, set.contains ch) ∧ m.place.Reads w d ∧
      answer { m with place := d } = some x ∧
        ∀ w' d', (∀ ch ∈ w', set.contains ch) → m.place.Reads w' d' → w.length < w'.length →
          answer { m with place := d' } = none

variable {set : CharSet} {ch : Char} {place : Cursor} {found : Option Match}

/-- Where a character of the set follows, what lies behind it is preferred. -/
theorem longest_more (reads : m.place.Reads [ch] place) (member : set.contains ch)
    (longest : Longest set answer { m with place } found) :
    Longest set answer m (found.or (answer m)) := by
  have split (w d) (within : ∀ ch ∈ w, set.contains ch) (reads' : m.place.Reads w d) :
      w = [] ∧ d = m.place ∨
        ∃ w', w = ch :: w' ∧ (∀ ch ∈ w', set.contains ch) ∧ place.Reads w' d := by
    cases w with
    | nil => exact .inl ⟨rfl,Cursor.reads_nil.mp reads'⟩
    | cons ch' w =>
      obtain ⟨d',first,rest⟩ := Cursor.reads_cons.mp reads'
      have same := Cursor.next?_eq_some.mpr first
      rw [Cursor.next?_eq_some.mpr reads] at same
      cases same
      exact .inr ⟨w,rfl,fun x inRest => within x (by simp [inRest]),rest⟩
  cases found with
  | some x =>
    obtain ⟨w,d,within,reads',answered,least⟩ := longest
    refine ⟨ch :: w,d,by simpa using ⟨member,within⟩,Cursor.reads_cons.mpr ⟨_,reads,reads'⟩,
      answered,fun w' d' within' reads'' longer => ?_⟩
    rcases split w' d' within' reads'' with ⟨rfl,rfl⟩ | ⟨w'',rfl,within'',reads''⟩
    · simp at longer
    · exact least w'' d' within'' reads'' (by simpa using longer)
  | none =>
    rw [Option.none_or]
    cases answered : answer m with
    | none =>
      intro w d within reads'
      rcases split w d within reads' with ⟨rfl,rfl⟩ | ⟨w',rfl,within',reads'⟩
      · exact answered
      · exact longest w' d within' reads'
    | some x =>
      refine ⟨[],m.place,by simp,by simp,answered,fun w d within reads' longer => ?_⟩
      rcases split w d within reads' with ⟨rfl,rfl⟩ | ⟨w',rfl,within',reads'⟩
      · simp at longer
      · exact longest w' d within' reads'

theorem longest_done
    (none : ∀ ch next, m.place.next? = some (ch,next) → ¬ set.contains ch) :
    Longest set answer m (answer m) := by
  have split (w d) (within : ∀ ch ∈ w, set.contains ch) (reads : m.place.Reads w d) :
      w = [] ∧ d = m.place := by
    cases w with
    | nil => exact ⟨rfl,Cursor.reads_nil.mp reads⟩
    | cons ch w =>
      obtain ⟨next,first,rest⟩ := Cursor.reads_cons.mp reads
      exact absurd (within ch (by simp)) (none ch next (Cursor.next?_eq_some.mpr first))
  cases answered : answer m with
  | none =>
    intro w d within reads
    obtain ⟨rfl,rfl⟩ := split w d within reads
    exact answered
  | some x =>
    refine ⟨[],m.place,by simp,by simp,answered,fun w d within reads longer => ?_⟩
    obtain ⟨rfl,rfl⟩ := split w d within reads
    simp at longer

theorem longest_repeatWays (fuel count : Nat) (last : Option Nat)
    (enough : m.place.after.length < fuel) :
    Longest set answer m ((repeatWays (ways g (.regular (.one set))) 0 none true false fuel count
      last m).findSome? answer) := by
  induction fuel generalizing count last m with
  | zero => omega
  | succ fuel ih =>
    simp only [repeatWays,reduceCtorEq,if_false,Bool.false_and,Bool.false_eq_true,
      Nat.not_lt_zero,ways_one,if_true]
    cases step : m.place.next? with
    | none => simpa using longest_done fun ch next step' => by simp [step] at step'
    | some pair =>
      obtain ⟨ch,place⟩ := pair
      by_cases member : set.contains ch
      · have reads := Cursor.next?_eq_some.mp step
        have less := Cursor.length_next? step
        have rest := @ih { m with place } (count + 1) (some m.offset) (by simp only; omega)
        simpa [member] using longest_more reads member rest
      · have done : Longest set answer m (answer m) := longest_done fun ch' place' step' => by
          rw [step] at step'
          cases step'
          exact member
        simpa [member] using done

/-- A greedy repetition of a character takes as many as there is an answer behind. -/
theorem best_star_one (enough : m.place.after.length < g.places) :
    Longest set answer m (best g (.many (.regular (.one set)) 0 none true false) answer m) :=
  longest_repeatWays _ 0 none (by simp only [Ground.copies,Option.getD_none]; omega)

/-- The outcome of a run of which the answer is known, as it is with `height` choices open. A run
that stops at a limit says nothing. -/
def Outcome.Tells (height : Nat) (answer : Option Match) : Outcome → Prop
  | .found t _ => answer = some t.toMatch
  | .failed left _ => answer = none ∧ left = height
  | .stopped .limit => True
  | .stopped (.fault _) => False

@[simp] theorem tells_stopped {height : Nat} {answer : Option Match} {why : Stop} :
    (Outcome.stopped why).Tells height answer ↔ why = .limit := by
  cases why <;> simp [Outcome.Tells]

/-- A way of running that gives the answer, and leaves all choices open where there is none. -/
def Exact (answer : Match → Option Match) (way : Continuation) : Prop :=
  ∀ s budget, (way s budget).Tells s.height (answer s.toMatch)

variable {first second next : Continuation}

theorem found_exact : Exact some .found := fun _ _ => rfl

theorem fail_tells (s : State) (budget : Nat) : (s.fail budget).Tells s.height none :=
  ⟨rfl,rfl⟩

theorem choose_exact (exact : Exact answer first) (exact' : Exact answer' second) :
    Exact (fun m => (answer m).or (answer' m)) (choose first second) := by
  intro s budget
  simp only [choose,withChoice]
  by_cases room : s.height < heightLimit
  · simp only [room,if_true]
    have here := exact { s with height := s.height + 1 } budget
    split
    · next height left failed =>
      rw [failed] at here
      obtain ⟨none,rfl⟩ := here
      simp only [Nat.lt_succ_self,if_true]
      cases left with
      | zero => trivial
      | succ left => simpa [none] using exact' s left
    · next outcome notFailed =>
      cases answered : first { s with height := s.height + 1 } budget with
      | found t left =>
        rw [answered] at here
        simp only [Outcome.Tells] at here ⊢
        simp [here]
      | failed height left => exact absurd answered (notFailed height left)
      | stopped why => simpa [answered] using here
  · simp [room,Outcome.Tells]

theorem Exact.weaken (exact : Exact answer first) (same : ∀ m, answer m = answer' m) :
    Exact answer' first := by
  rw [← show answer = answer' from funext same]
  exact exact

theorem repeatRun_exact {body : Program} {least : Nat} {most : Option Nat} {greedy guarded : Bool}
    (copy : ∀ {answer next}, Exact answer next → Exact (best g body answer) (body.run g next))
    (exact : Exact answer next) (fuel count : Nat) (last : Option Nat) :
    Exact (fun m =>
        (repeatWays (ways g body) least most greedy guarded fuel count last m).findSome? answer)
      (repeatRun (body.run g) least most greedy guarded next fuel count last) := by
  induction fuel generalizing count last with
  | zero => exact fun s budget => trivial
  | succ fuel ih =>
    intro s budget
    simp only [repeatRun,repeatWays]
    by_cases full : most = some count
    · simpa [full] using exact s budget
    simp only [full,if_false]
    by_cases stalled : guarded && count > least && last = some s.offset
    · simpa [stalled] using fail_tells s budget
    have again (last : Option Nat) := copy (ih (count + 1) last)
    simp only [stalled,Bool.false_eq_true,if_false]
    split
    · rw [findSome?_flatMap]
      exact again last s budget
    · split
      · rw [List.findSome?_append,findSome?_flatMap]
        simpa [best] using choose_exact (again (some s.offset)) exact s budget
      · have rest := choose_exact exact (again (some s.offset)) s budget
        cases here : answer s.toMatch <;> simpa [here,best,findSome?_flatMap] using rest

theorem notAround_exact {body : Program} (back : Nat)
    (inner : Exact (best g body some) (body.run g .found)) (exact : Exact answer next) :
    Exact (best g (.notAround back body) answer) (run g (.notAround back body) next) := by
  intro s budget
  simp only [run,best,ways,withChoice]
  by_cases room : s.height < heightLimit
  · simp only [room,if_true]
    cases step : s.place.back? back with
    | none =>
      simp only [State.fail,Nat.lt_succ_self,if_true]
      cases budget with
      | zero => trivial
      | succ budget => simpa using exact s budget
    | some place =>
      have ahead := inner { s with place, height := s.height + 1 } budget
      cases outcome : run g body .found { s with place, height := s.height + 1 } budget with
      | found t left =>
        rw [outcome] at ahead
        cases some : ways g body { s.toMatch with place } with
        | nil => simp [Outcome.Tells,best,some] at ahead
        | cons u rest => simpa [outcome,some] using fail_tells s left
      | failed height left =>
        rw [outcome] at ahead
        obtain ⟨none,rfl⟩ := ahead
        simp only [best,List.findSome?_eq_none_iff] at none
        have empty : ways g body { s.toMatch with place } = [] :=
          List.eq_nil_iff_forall_not_mem.mpr fun u member => by simpa using none u member
        simp only [outcome,Nat.lt_succ_self,if_true]
        cases left with
        | zero => trivial
        | succ left => simpa [empty] using exact s left
      | stopped why => simpa [outcome] using ahead
  · simp [room,Outcome.Tells]

/-- A run gives what the next continuation answers on the first way on which it answers. -/
theorem run_exact {p : Program} (free : p.isFree) (exact : Exact answer next) :
    Exact (p.best g answer) (p.run g next) := by
  induction p generalizing answer next with
  | nothing =>
    rw [best_nothing]
    exact exact
  | regular e =>
    intro s budget
    simp only [run]
    split
    · next r found => simpa [best,ways,found] using exact { s with toReached := r } budget
    · next none => simpa [best,ways,none] using fail_tells s budget
  | group index body ih =>
    intro s budget
    rw [best_group]
    have closed : Exact (fun u => answer { u with toReached := u.toReached.setSlot (2 * index + 1) })
        (fun s budget => next (s.setSlot (2 * index + 1)) budget) :=
      fun s budget => exact (s.setSlot (2 * index + 1)) budget
    exact ih free closed (s.setSlot (2 * index)) budget
  | seq first second ih ih' =>
    simp only [isFree,Bool.and_eq_true] at free
    rw [best_seq]
    exact ih free.1 (ih' free.2 exact)
  | alt first second ih ih' =>
    simp only [isFree,Bool.and_eq_true] at free
    exact (choose_exact (ih free.1 exact) (ih' free.2 exact)).weaken fun m =>
      (best_alt first second).symm
  | optional body greedy ih =>
    cases greedy with
    | true =>
      refine (choose_exact (ih free exact) exact).weaken fun m => ?_
      simp [best,ways]
    | false =>
      refine (choose_exact exact (ih free exact)).weaken fun m => ?_
      cases here : answer m <;> simp [best,ways,here]
  | many body least most greedy guarded ih =>
    exact repeatRun_exact (ih free) exact (g.copies least most) 0 none
  | around back body ih =>
    intro s budget
    simp only [run]
    split
    · next none => simpa [best,ways,none] using fail_tells s budget
    · next place step =>
      rw [best_around step]
      exact ih free (fun t budget => exact { t with place := s.place } budget) _ budget
  | notAround back body ih => exact notAround_exact back (ih free found_exact) exact
  | atomic | cond | backref => contradiction
  | groupSet index =>
    intro s budget
    simp only [run,best,ways]
    split
    · next isSet => simpa using exact s budget
    · next notSet => exact fail_tells s budget
  | keepOut =>
    intro s budget
    simpa [run,best,ways] using exact { s with start := s.offset } budget
  | searchStart =>
    intro s budget
    simp only [run,best,ways]
    split
    · next behind => exact fail_tells s budget
    · next notBehind => simpa using exact s budget

end Highlighting.Pattern.Program
