import Highlighting.Proofs.Boundary
import Highlighting.Scan

/-! The scan as a sequence of searches. `Run` is the scan without a bound on the searches, and
`Visits` collects the offsets at which it searches. A sound search never goes back, so the only
scan without an end is one that meets the same offset twice in a row. -/
namespace Highlighting

namespace Span

/-- The span is a part of the text: its ends are in order, and both are boundaries. -/
structure Fits (m : Span) (text : Text) : Prop where
  ordered : m.start ≤ m.stop
  start : text.IsBoundary m.start
  stop : text.IsBoundary m.stop

end Span

namespace Search

/-- Matches are parts of the text that do not end before the offset of the search. Where they
start is left open: the start of a match can be moved back. -/
def Sound (search : Search) : Prop :=
  ∀ text offset m, text.IsBoundary offset → search text offset = .ok (some m) →
    offset ≤ m.stop ∧ m.Fits text

/-- Every search has an answer, and matches are parts of the text from the offset of the search
on. -/
def WellFormed (search : Search) : Prop :=
  ∀ text offset, text.IsBoundary offset → ∃ answer, search text offset = .ok answer ∧
    ∀ m ∈ answer, offset ≤ m.start ∧ m.Fits text

namespace WellFormed

variable {search : Search} {text : Text} {offset : Nat}

theorem found {m : Span} (wellFormed : search.WellFormed) (boundary : text.IsBoundary offset)
    (found : search text offset = .ok (some m)) : offset ≤ m.start ∧ m.Fits text := by
  obtain ⟨answer,answers,fits⟩ := wellFormed text offset boundary
  rw [found] at answers
  cases answers
  exact fits m rfl

theorem sound (wellFormed : search.WellFormed) : search.Sound := by
  intro text offset m boundary found
  obtain ⟨after,fits⟩ := wellFormed.found boundary found
  exact ⟨Nat.le_trans after fits.ordered,fits⟩

end WellFormed

def everywhere : Search := fun _ offset => .ok (some ⟨offset,offset⟩)

theorem everywhere_wellFormed : everywhere.WellFormed := by
  intro text offset boundary
  refine ⟨_,rfl,?_⟩
  rintro m ⟨⟩
  exact ⟨Nat.le_refl _,Nat.le_refl _,boundary,boundary⟩

def allLeft : Search := fun text offset =>
  .ok (if offset < text.bytes then some ⟨offset,text.bytes⟩ else none)

theorem allLeft_wellFormed : allLeft.WellFormed := by
  intro text offset boundary
  refine ⟨_,rfl,fun m member => ?_⟩
  split at member
  · cases member
    exact ⟨Nat.le_refl _,boundary.le,boundary,text,[],by simp,rfl⟩
  · contradiction

end Search

/-- Spans that are parts of a text, one behind the other, none before `start`. -/
structure Laid (text : Text) (start : Nat) (spans : List Span) : Prop where
  fits : ∀ m ∈ spans, m.Fits text
  after : ∀ m ∈ spans, start ≤ m.start
  disjoint : spans.Pairwise fun a b => a.stop ≤ b.start

theorem laid_cons (text : Text) (start : Nat) (m : Span) (ms : List Span) :
    Laid text start (m :: ms) ↔ start ≤ m.start ∧ m.Fits text ∧ Laid text m.stop ms := by
  constructor
  · intro laid
    obtain ⟨behind,disjoint⟩ := List.pairwise_cons.mp laid.disjoint
    exact ⟨laid.after m List.mem_cons_self,laid.fits m List.mem_cons_self,
      ⟨fun x member => laid.fits x (List.mem_cons_of_mem m member),behind,disjoint⟩⟩
  · rintro ⟨after,fits,laid⟩
    refine ⟨?_,?_,List.pairwise_cons.mpr ⟨laid.after,laid.disjoint⟩⟩
    · intro x member
      rcases List.mem_cons.mp member with rfl | member
      · exact fits
      · exact laid.fits x member
    · intro x member
      rcases List.mem_cons.mp member with rfl | member
      · exact after
      · have ordered := fits.ordered
        have behind := laid.after x member
        omega

theorem laid_nil (text : Text) (start : Nat) : Laid text start [] := by
  constructor <;> simp

theorem Laid.weaken {text : Text} {start earlier : Nat} {spans : List Span}
    (laid : Laid text start spans) (le : earlier ≤ start) : Laid text earlier spans :=
  ⟨laid.fits,fun m member => Nat.le_trans le (laid.after m member),laid.disjoint⟩

namespace Scan

/-- Where the scan goes on behind a part of the text: at its end, or behind the next character if
the part is empty. -/
theorem resume?_of_fits {text : Text} {m : Span} (fits : m.Fits text) :
    ∃ next, resume? text m = some next ∧ m.stop ≤ next ∧ next ≤ text.bytes + 1 ∧
      (m.start = m.stop → m.stop < next) ∧ (m.start < m.stop → next = m.stop) ∧
      (next ≤ text.bytes → text.IsBoundary next) := by
  have ordered := fits.ordered
  have bound := fits.stop.le
  by_cases isEmpty : m.stop ≤ m.start
  · obtain ⟨before,after,rfl,size⟩ := fits.stop
    have cutting : Text.cutBack [] (before ++ after) m.stop = some (before.reverse,after) := by
      rw [Text.cutBack_eq,← size,Text.cut_append]
      simp
    cases after with
    | nil =>
      refine ⟨Text.bytes (before ++ []) + 1,?_,by omega,Nat.le_refl _,by omega,by omega,by omega⟩
      simp only [resume?,Span.isEmpty,isEmpty,decide_true,if_true,cutting]
    | cons c after =>
      have positive := c.utf8Size_pos
      simp only [Text.bytes_append,Text.bytes_cons] at bound ⊢
      refine ⟨m.stop + c.utf8Size,?_,by omega,by omega,by omega,by omega,?_⟩
      · simp only [resume?,Span.isEmpty,isEmpty,decide_true,if_true,cutting]
      · intro _
        exact ⟨before ++ [c],after,by simp,by simp [size]⟩
  · refine ⟨m.stop,?_,Nat.le_refl _,by omega,by omega,fun _ => rfl,fun _ => fits.stop⟩
    simp [resume?,Span.isEmpty,isEmpty]

/-- The scan from an offset on, however many searches it takes. -/
inductive Run (search : Search) (text : Text) : Nat → List Span → Prop where
  | behind {offset} : text.bytes < offset → Run search text offset []
  | nothing {offset} : search text offset = .ok none → Run search text offset []
  | found {offset m next ms} : offset ≤ text.bytes → search text offset = .ok (some m) →
      resume? text m = some next → Run search text next ms → Run search text offset (m :: ms)

inductive Visits (search : Search) (text : Text) : Nat → Prop where
  | start : Visits search text 0
  | next {offset m next} : Visits search text offset → search text offset = .ok (some m) →
      resume? text m = some next → next ≤ text.bytes → Visits search text next

/-- All that one search of a scan can lead to. -/
theorem from?_step (search : Search) (text : Text) (fuel offset : Nat) :
    (text.bytes < offset ∧ from? search text text.bytes (fuel + 1) offset = .ok []) ∨
    (search text offset = .ok none ∧ from? search text text.bytes (fuel + 1) offset = .ok []) ∨
    (∃ fault, offset ≤ text.bytes ∧ search text offset = .error fault ∧
      from? search text text.bytes (fuel + 1) offset = .error (.search fault)) ∨
    ∃ m, offset ≤ text.bytes ∧ search text offset = .ok (some m) ∧
      ((resume? text m = none ∧
          from? search text text.bytes (fuel + 1) offset = .error .noSuchPart) ∨
        ∃ next, resume? text m = some next ∧
          from? search text text.bytes (fuel + 1) offset =
            (from? search text text.bytes fuel next).map (m :: ·)) := by
  by_cases beyond : text.bytes < offset
  · exact .inl ⟨beyond,by simp [from?,beyond]⟩
  match found : search text offset with
  | .ok none => exact .inr (.inl ⟨rfl,by simp [from?,beyond,found]⟩)
  | .error fault => exact .inr (.inr (.inl ⟨fault,by omega,rfl,by simp [from?,beyond,found]⟩))
  | .ok (some m) =>
    refine .inr (.inr (.inr ⟨m,by omega,rfl,?_⟩))
    cases further : resume? text m with
    | none => exact .inl ⟨rfl,by simp [from?,beyond,found,further]⟩
    | some next => exact .inr ⟨next,rfl,by simp [from?,beyond,found,further]⟩

theorem from?_run (search : Search) (text : Text) (fuel offset : Nat) (spans : List Span)
    (returned : from? search text text.bytes fuel offset = .ok spans) :
    Run search text offset spans := by
  induction fuel generalizing offset spans with
  | zero => contradiction
  | succ fuel ih =>
    rcases from?_step search text fuel offset with
      ⟨beyond,equal⟩ | ⟨found,equal⟩ | ⟨_,_,_,equal⟩ |
        ⟨m,inside,found,⟨_,equal⟩ | ⟨next,further,equal⟩⟩
    all_goals rw [equal] at returned
    · cases returned
      exact .behind beyond
    · cases returned
      exact .nothing found
    · contradiction
    · contradiction
    · cases later : from? search text text.bytes fuel next with
      | error fault => rw [later] at returned; contradiction
      | ok ms =>
        rw [later] at returned
        cases returned
        exact .found inside found further (ih next ms later)

theorem Run.unique {search : Search} {text : Text} {offset : Nat} {spans others : List Span}
    (run : Run search text offset spans) (other : Run search text offset others) :
    spans = others := by
  induction run generalizing others with
  | behind beyond =>
    cases other with
    | behind | nothing => rfl
    | found inside => omega
  | nothing none =>
    cases other with
    | behind | nothing => rfl
    | found _ some => rw [none] at some; cases some
  | found inside found further _ ih =>
    cases other with
    | behind beyond => omega
    | nothing none => rw [found] at none; cases none
    | found _ found' further' run' =>
      rw [found] at found'
      cases found'
      rw [further] at further'
      cases further'
      rw [ih run']

variable {search : Search} {text : Text}

/-- One step of a scan from `offset` over the match `m` to `next`. It never goes back, and it stays
only if the match starts before the offset and ends there. -/
structure Step (text : Text) (offset : Nat) (m : Span) (next : Nat) : Prop where
  fits : m.Fits text
  notBefore : offset ≤ m.stop
  onward : m.stop ≤ next
  bound : next ≤ text.bytes + 1
  boundary : next ≤ text.bytes → text.IsBoundary next
  stays_iff : next = offset ↔ m.start < offset ∧ m.stop = offset

theorem step_of_sound (sound : search.Sound) {offset next : Nat} {m : Span}
    (boundary : text.IsBoundary offset) (found : search text offset = .ok (some m))
    (further : resume? text m = some next) : Step text offset m next := by
  obtain ⟨notBefore,fits⟩ := sound text offset m boundary found
  obtain ⟨_,equal,le,bound,empty,nonempty,boundary'⟩ := resume?_of_fits fits
  rw [further] at equal
  cases equal
  have ordered := fits.ordered
  refine ⟨fits,notBefore,le,bound,boundary',?_,?_⟩
  · intro same
    have stop : m.stop = offset := by omega
    have apart : m.start ≠ m.stop := fun h => by have := empty h; omega
    exact ⟨by omega,stop⟩
  · rintro ⟨before,stop⟩
    rw [nonempty (by omega),stop]

theorem Visits.inside {offset : Nat} (visits : Visits search text offset) :
    offset ≤ text.bytes := by
  cases visits with
  | start => exact Nat.zero_le _
  | next _ _ _ inside => exact inside

theorem Visits.boundary (sound : search.Sound) {offset : Nat}
    (visits : Visits search text offset) : text.IsBoundary offset := by
  induction visits with
  | start => exact text.isBoundary_zero
  | next _ found further inside ih =>
    exact (step_of_sound sound ih found further).boundary inside

theorem Visits.step (sound : search.Sound) {offset : Nat} {m : Span}
    (visits : Visits search text offset) (found : search text offset = .ok (some m)) :
    ∃ next, resume? text m = some next ∧ Step text offset m next := by
  have boundary := visits.boundary sound
  obtain ⟨next,further,_⟩ := resume?_of_fits (sound text offset m boundary found).2
  exact ⟨next,further,step_of_sound sound boundary found further⟩

/-- A search that is not moved on by its match gives a scan without an end. -/
theorem from?_stalled {offset : Nat} {m : Span} (inside : offset ≤ text.bytes)
    (found : search text offset = .ok (some m)) (held : resume? text m = some offset) (fuel : Nat) :
    from? search text text.bytes fuel offset = .error .endless := by
  induction fuel with
  | zero => rfl
  | succ fuel ih =>
    have notBeyond : ¬ text.bytes < offset := by omega
    simp only [from?,notBeyond,if_false,found,held,ih]
    rfl

/-- The scan from its first offset runs through every offset that it visits. -/
theorem from?_of_visits {offset : Nat} (visits : Visits search text offset) :
    ∃ searches earlier, ∀ left, from? search text text.bytes (searches + left) 0 =
      (from? search text text.bytes left offset).map (earlier ++ ·) := by
  induction visits with
  | start =>
    refine ⟨0,[],fun left => ?_⟩
    rw [Nat.zero_add]
    cases from? search text text.bytes left 0 <;> rfl
  | @next offset m next visits found further _ ih =>
    obtain ⟨searches,earlier,equal⟩ := ih
    refine ⟨searches + 1,earlier ++ [m],fun left => ?_⟩
    have notBeyond : ¬ text.bytes < offset := Nat.not_lt.mpr visits.inside
    rw [Nat.add_assoc,Nat.add_comm 1,equal]
    simp only [from?,notBeyond,if_false,found,further]
    cases from? search text text.bytes left next <;> simp [Except.map]

/-- More searches allowed change nothing, unless too few were. -/
theorem from?_more (fuel more offset : Nat)
    (settled : from? search text text.bytes fuel offset ≠ .error .endless) :
    from? search text text.bytes (fuel + more) offset =
      from? search text text.bytes fuel offset := by
  induction fuel generalizing offset with
  | zero => exact absurd rfl settled
  | succ fuel ih =>
    rw [Nat.add_right_comm]
    rcases from?_step search text fuel offset with
      ⟨beyond,_⟩ | ⟨found,_⟩ | ⟨_,_,found,_⟩ | ⟨m,inside,found,⟨further,_⟩ | ⟨next,further,equal⟩⟩
    · simp [from?,beyond]
    · simp [from?,found]
    · simp [from?,found]
    · simp [from?,found,further]
    · have later := ih next fun endless => settled (by rw [equal,endless]; rfl)
      simp only [from?,found,further,later]

/-- A scan with enough searches ends, or is held at some offset, or has no answer at one. -/
theorem from?_outcome (sound : search.Sound) (fuel offset : Nat)
    (visits : offset ≤ text.bytes → Visits search text offset)
    (enough : text.bytes + 2 ≤ fuel + offset) (within : offset ≤ text.bytes + 1) :
    (∃ spans, from? search text text.bytes fuel offset = .ok spans) ∨
    (from? search text text.bytes fuel offset = .error .endless ∧
      ∃ place m, Visits search text place ∧ search text place = .ok (some m) ∧
        m.start < place ∧ m.stop = place) ∨
    ∃ fault place, from? search text text.bytes fuel offset = .error (.search fault) ∧
      Visits search text place ∧ search text place = .error fault := by
  induction fuel generalizing offset with
  | zero => omega
  | succ fuel ih =>
    rcases from?_step search text fuel offset with
      ⟨_,equal⟩ | ⟨_,equal⟩ | ⟨fault,inside,found,equal⟩ |
        ⟨m,inside,found,⟨nowhere,_⟩ | ⟨next,further,equal⟩⟩
    · exact .inl ⟨[],equal⟩
    · exact .inl ⟨[],equal⟩
    · exact .inr (.inr ⟨fault,offset,equal,visits inside,found⟩)
    · obtain ⟨next,further,_⟩ := (visits inside).step sound found
      rw [nowhere] at further
      contradiction
    · have step := step_of_sound sound ((visits inside).boundary sound) found further
      by_cases stays : next = offset
      · subst stays
        exact .inr (.inl ⟨from?_stalled inside found further _,next,m,visits inside,found,
          step.stays_iff.mp rfl⟩)
      · have onward := Nat.le_trans step.notBefore step.onward
        rw [equal]
        rcases ih next ((visits inside).next found further) (by omega) step.bound with
          ⟨spans,later⟩ | ⟨later,held⟩ | ⟨fault,place,later,unanswered⟩
        all_goals rw [later]
        · exact .inl ⟨_,rfl⟩
        · exact .inr (.inl ⟨rfl,held⟩)
        · exact .inr (.inr ⟨fault,place,rfl,unanswered⟩)

/-- A scan that ends has moved on at every search. -/
theorem Run.advances (sound : search.Sound) {offset next : Nat} {m : Span} {ms : List Span}
    (inside : offset ≤ text.bytes) (boundary : text.IsBoundary offset)
    (found : search text offset = .ok (some m)) (further : resume? text m = some next)
    (run : Run search text next ms) : offset < next := by
  have step := step_of_sound sound boundary found further
  have moved : next ≠ offset := by
    intro same
    subst same
    -- The run from the offset would be longer than itself by one match.
    have repeated := (Run.found inside found further run).unique run
    simpa using congrArg List.length repeated
  exact Nat.lt_of_le_of_ne (Nat.le_trans step.notBefore step.onward) (Ne.symm moved)

theorem Run.behind_nil {offset : Nat} {spans : List Span} (run : Run search text offset spans)
    (beyond : text.bytes < offset) : spans = [] := by
  cases run with
  | behind | nothing => rfl
  | found inside => omega

/-- There is at most one match for each character that is left, and one behind them all. -/
theorem Run.length_le (sound : search.Sound) {offset : Nat} {spans : List Span}
    (run : Run search text offset spans) {before after : Text} (same : text = before ++ after)
    (size : before.bytes = offset) : spans.length ≤ after.length + 1 := by
  induction run generalizing before after with
  | behind | nothing => simp
  | @found offset m next ms inside found further run ih =>
    have boundary : text.IsBoundary offset := ⟨before,after,same,size⟩
    have moved := run.advances sound inside boundary found further
    by_cases beyond : text.bytes < next
    · simp [run.behind_nil beyond]
    · obtain ⟨before',after',same',size'⟩ :=
        (step_of_sound sound boundary found further).boundary (by omega)
      have fewer := Text.length_after_lt (same.symm.trans same') (by omega)
      have later := ih same' size'
      simp only [List.length_cons]
      omega

theorem Run.fits (sound : search.Sound) {offset : Nat} {spans : List Span}
    (run : Run search text offset spans)
    (boundary : offset ≤ text.bytes → text.IsBoundary offset) :
    (∀ m ∈ spans, offset ≤ m.stop ∧ m.Fits text) ∧
      spans.Pairwise (fun a b => a.stop ≤ b.stop) := by
  induction run with
  | behind | nothing => simp
  | @found offset m next ms inside found further _ ih =>
    have step := step_of_sound sound (boundary inside) found further
    obtain ⟨later,sorted⟩ := ih step.boundary
    have behind : ∀ x ∈ ms, m.stop ≤ x.stop :=
      fun x member => Nat.le_trans step.onward (later x member).1
    refine ⟨?_,List.pairwise_cons.mpr ⟨behind,sorted⟩⟩
    intro x member
    rcases List.mem_cons.mp member with rfl | member
    · exact ⟨step.notBefore,step.fits⟩
    · exact ⟨Nat.le_trans step.notBefore (behind x member),(later x member).2⟩

theorem Run.laid (wellFormed : search.WellFormed) {offset : Nat} {spans : List Span}
    (run : Run search text offset spans)
    (boundary : offset ≤ text.bytes → text.IsBoundary offset) : Laid text offset spans := by
  induction run with
  | behind | nothing => exact laid_nil text _
  | @found offset m next ms inside found further _ ih =>
    obtain ⟨after,fits⟩ := wellFormed.found (boundary inside) found
    have step := step_of_sound wellFormed.sound (boundary inside) found further
    exact (laid_cons text offset m ms).mpr
      ⟨after,fits,(ih step.boundary).weaken step.onward⟩

theorem Run.from? (sound : search.Sound) {offset : Nat} {spans : List Span}
    (run : Run search text offset spans)
    (boundary : offset ≤ text.bytes → text.IsBoundary offset) (fuel : Nat)
    (enough : text.bytes + 2 ≤ fuel + offset) (within : offset ≤ text.bytes + 1) :
    from? search text text.bytes fuel offset = .ok spans := by
  induction run generalizing fuel with
  | behind beyond =>
    obtain ⟨fuel,rfl⟩ := Nat.exists_eq_succ_of_ne_zero (show fuel ≠ 0 by omega)
    simp [Scan.from?,beyond]
  | nothing none =>
    obtain ⟨fuel,rfl⟩ := Nat.exists_eq_succ_of_ne_zero (show fuel ≠ 0 by omega)
    simp [Scan.from?,none]
  | @found offset m next ms inside found further run ih =>
    obtain ⟨fuel,rfl⟩ := Nat.exists_eq_succ_of_ne_zero (show fuel ≠ 0 by omega)
    have moved := run.advances sound inside (boundary inside) found further
    have step := step_of_sound sound (boundary inside) found further
    have later := ih step.boundary fuel (by omega) step.bound
    have notBeyond : ¬ text.bytes < offset := by omega
    simp only [Scan.from?,notBeyond,if_false,found,further,later]
    rfl

/-- The bound on the searches of `findAll` is enough for every scan that ends. -/
theorem findAll_eq_ok_iff (sound : search.Sound) (text : Text) (spans : List Span) :
    findAll search text = .ok spans ↔ Run search text 0 spans := by
  constructor
  · exact from?_run search text _ 0 spans
  · intro run
    exact run.from? sound (fun _ => text.isBoundary_zero) _ (by omega) (by omega)

theorem findAll_outcome (sound : search.Sound) (text : Text) :
    (∃ spans, findAll search text = .ok spans) ∨
    (findAll search text = .error .endless ∧
      ∃ offset m, Visits search text offset ∧ search text offset = .ok (some m) ∧
        m.start < offset ∧ m.stop = offset) ∨
    ∃ fault offset, findAll search text = .error (.search fault) ∧
      Visits search text offset ∧ search text offset = .error fault :=
  from?_outcome sound _ 0 (fun _ => .start) (by omega) (by omega)

theorem findAll_ne_noSuchPart (sound : search.Sound) (text : Text) :
    findAll search text ≠ .error .noSuchPart := by
  rcases findAll_outcome sound text with ⟨_,equal⟩ | ⟨equal,_⟩ | ⟨_,_,equal,_⟩ <;> simp [equal]

/-- The scan that comes back to an offset does so with any number of searches. -/
theorem from?_of_held (sound : search.Sound) {offset : Nat} {m : Span}
    (visits : Visits search text offset) (found : search text offset = .ok (some m))
    (held : m.start < offset ∧ m.stop = offset) :
    ∃ searches, ∀ left, from? search text text.bytes (searches + left) 0 = .error .endless := by
  obtain ⟨next,further,step⟩ := visits.step sound found
  rw [step.stays_iff.mpr held] at further
  obtain ⟨searches,earlier,equal⟩ := from?_of_visits visits
  refine ⟨searches,fun left => ?_⟩
  rw [equal,from?_stalled visits.inside found further]
  rfl

theorem findAll_eq_from? (sound : search.Sound) (text : Text) (more : Nat) :
    from? search text text.bytes (text.bytes + 2 + more) 0 = findAll search text := by
  rcases findAll_outcome sound text with ⟨_,equal⟩ | ⟨endless,_,_,visits,found,held⟩ |
    ⟨_,_,equal,_⟩
  · exact from?_more _ more 0 (by rw [← findAll,equal]; simp)
  · obtain ⟨searches,always⟩ := from?_of_held sound visits found held
    rw [endless]
    by_contra settled
    have same := from?_more _ searches 0 settled
    rw [Nat.add_comm _ searches,always] at same
    exact settled same.symm
  · exact from?_more _ more 0 (by rw [← findAll,equal]; simp)

/-- A scan is endless exactly when it visits an offset at which the search answers a match that
starts before the offset and ends there. -/
theorem findAll_eq_endless_iff (sound : search.Sound) (text : Text) :
    findAll search text = .error .endless ↔
      ∃ offset m, Visits search text offset ∧ search text offset = .ok (some m) ∧
        m.start < offset ∧ m.stop = offset := by
  constructor
  · intro endless
    rcases findAll_outcome sound text with ⟨_,equal⟩ | ⟨_,held⟩ | ⟨_,_,equal,_⟩
    · simp [endless] at equal
    · exact held
    · simp [endless] at equal
  · rintro ⟨offset,m,visits,found,held⟩
    obtain ⟨searches,always⟩ := from?_of_held sound visits found held
    rw [← findAll_eq_from? sound text searches,Nat.add_comm,always]

/-- A scan has no answer exactly when it visits an offset at which the search has none. -/
theorem findAll_eq_search_iff (sound : search.Sound) (text : Text) (fault : SearchFault) :
    findAll search text = .error (.search fault) ↔
      ∃ offset, Visits search text offset ∧ search text offset = .error fault := by
  constructor
  · intro failed
    rcases findAll_outcome sound text with ⟨_,equal⟩ | ⟨equal,_⟩ | ⟨_,offset,equal,visits,found⟩
    · simp [failed] at equal
    · simp [failed] at equal
    · rw [failed] at equal
      cases equal
      exact ⟨offset,visits,found⟩
  · rintro ⟨offset,visits,found⟩
    obtain ⟨searches,earlier,equal⟩ := from?_of_visits visits
    have notBeyond : ¬ text.bytes < offset := Nat.not_lt.mpr visits.inside
    rw [← findAll_eq_from? sound text searches,Nat.add_comm,equal]
    simp only [from?,notBeyond,if_false,found]
    rfl

/-- A scan ends exactly if every search of it has an answer and none holds it at its offset. -/
theorem ends_iff (sound : search.Sound) (text : Text) :
    (∃ spans, Run search text 0 spans) ↔
      ∀ offset, Visits search text offset → ∃ answer, search text offset = .ok answer ∧
        ∀ m ∈ answer, ¬ (m.start < offset ∧ m.stop = offset) := by
  simp only [← findAll_eq_ok_iff sound]
  constructor
  · rintro ⟨spans,returned⟩ offset visits
    cases found : search text offset with
    | error fault =>
      rw [(findAll_eq_search_iff sound text fault).mpr ⟨offset,visits,found⟩] at returned
      contradiction
    | ok answer =>
      refine ⟨answer,rfl,?_⟩
      rintro m ⟨⟩ held
      rw [(findAll_eq_endless_iff sound text).mpr ⟨offset,m,visits,found,held⟩] at returned
      contradiction
  · intro answers
    rcases findAll_outcome sound text with ends | ⟨_,offset,m,visits,found,held⟩ |
      ⟨fault,offset,_,visits,found⟩
    · exact ends
    · obtain ⟨answer,same,moves⟩ := answers offset visits
      rw [found] at same
      cases same
      exact absurd held (moves m rfl)
    · obtain ⟨answer,same,_⟩ := answers offset visits
      rw [found] at same
      contradiction

/-- A well-formed search always gives a scan that ends, with spans one behind the other. -/
theorem findAll_laid (wellFormed : search.WellFormed) (text : Text) :
    ∃ spans, findAll search text = .ok spans ∧ Laid text 0 spans := by
  have sound := wellFormed.sound
  obtain ⟨spans,run⟩ : ∃ spans, Run search text 0 spans := by
    refine (ends_iff sound text).mpr fun offset visits => ?_
    obtain ⟨answer,answers,within⟩ := wellFormed text offset (visits.boundary sound)
    refine ⟨answer,answers,fun m member held => ?_⟩
    obtain ⟨after,fits⟩ := within m member
    have ordered := fits.ordered
    omega
  exact ⟨spans,(findAll_eq_ok_iff sound text spans).mpr run,
    run.laid wellFormed fun _ => text.isBoundary_zero⟩

end Scan

end Highlighting
