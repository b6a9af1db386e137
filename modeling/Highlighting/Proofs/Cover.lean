import Mathlib.Data.List.Sort
import Highlighting.Proofs.Scan

/-! Which hits a scan takes. A search answers the first hit from its offset on, and hits may overlap.
The scan takes a set of hits that lie apart from each other if every hit starts in one of them: that
one is then met first, and taking it passes over all others that start in it. -/
namespace Highlighting

/-- From an offset on, the search answers the hit that starts first. -/
def Search.AnswersFirst (search : Search) (text : Text) (hit : Span → Prop) (offset : Nat) : Prop :=
  match search text offset with
  | .error _ => False
  | .ok none => ∀ h, hit h → h.start < offset
  | .ok (some m) => hit m ∧ offset ≤ m.start ∧ ∀ h, hit h → offset ≤ h.start → m.start ≤ h.start

/-- A set of hits that lie apart and in one of which every hit starts. -/
structure Covers (hit taken : Span → Prop) : Prop where
  isHit : ∀ m, taken m → hit m
  nonempty : ∀ m, taken m → m.start < m.stop
  apart : ∀ m m', taken m → taken m' → m.start < m'.start → m.stop ≤ m'.start
  cover : ∀ h, hit h → ∃ m, taken m ∧ m.start ≤ h.start ∧ h.start < m.stop

theorem Covers.taken_of_least {hit taken : Span → Prop} (covers : Covers hit taken)
    (unique : ∀ h h', hit h → hit h' → h.start = h'.start → h = h') {offset : Nat}
    (outside : ∀ m, taken m → m.start < offset → m.stop ≤ offset) {m : Span} (isHit : hit m)
    (after : offset ≤ m.start) (least : ∀ h, hit h → offset ≤ h.start → m.start ≤ h.start) :
    taken m := by
  obtain ⟨m',isTaken,before,behind⟩ := covers.cover m isHit
  have notBefore : offset ≤ m'.start := by
    by_contra less
    have := outside m' isTaken (by omega)
    omega
  have same := least m' (covers.isHit m' isTaken) notBefore
  rw [unique m m' isHit (covers.isHit m' isTaken) (by omega)]
  exact isTaken

/-- Of the hits that start before the end of a taken one, the others that are taken end before it. -/
theorem Covers.eq_or_before {hit taken : Span → Prop} (covers : Covers hit taken)
    (unique : ∀ h h', hit h → hit h' → h.start = h'.start → h = h') {m m' : Span}
    (isTaken : taken m) (isTaken' : taken m') (before : m'.start < m.stop) :
    m' = m ∨ m'.stop ≤ m.start := by
  rcases Nat.lt_trichotomy m'.start m.start with less | same | less
  · exact .inr (covers.apart m' m isTaken' isTaken less)
  · exact .inl (unique m' m (covers.isHit m' isTaken') (covers.isHit m isTaken) same)
  · have := covers.apart m m' isTaken isTaken' less
    omega

namespace Scan

variable {search : Search} {text : Text} {hit taken : Span → Prop}

/-- A scan that takes hits one after another, from an offset that lies in none of them. -/
theorem Run.mem_iff (covers : Covers hit taken)
    (unique : ∀ h h', hit h → hit h' → h.start = h'.start → h = h')
    (inside : ∀ h, hit h → h.stop ≤ text.bytes)
    (answers : ∀ offset, Visits search text offset → search.AnswersFirst text hit offset)
    {offset : Nat} {spans : List Span} (run : Run search text offset spans)
    (visits : offset ≤ text.bytes → Visits search text offset)
    (outside : ∀ m, taken m → m.start < offset → m.stop ≤ offset) :
    (∀ m, m ∈ spans ↔ taken m ∧ offset ≤ m.start) ∧
      spans.Pairwise fun a b => a.stop ≤ b.start := by
  induction run with
  | @behind offset beyond =>
    refine ⟨fun m => ⟨by simp,?_⟩,.nil⟩
    rintro ⟨isTaken,after⟩
    have := covers.nonempty m isTaken
    have := inside m (covers.isHit m isTaken)
    omega
  | @nothing offset none =>
    refine ⟨fun m => ⟨by simp,?_⟩,.nil⟩
    rintro ⟨isTaken,after⟩
    have := covers.nonempty m isTaken
    have := inside m (covers.isHit m isTaken)
    have first := answers offset (visits (by omega))
    rw [Search.AnswersFirst,none] at first
    have := first m (covers.isHit m isTaken)
    omega
  | @found offset m next ms within found further run ih =>
    have first := answers offset (visits within)
    rw [Search.AnswersFirst,found] at first
    obtain ⟨isHit,after,least⟩ := first
    have isTaken := covers.taken_of_least unique outside isHit after least
    have nonempty := covers.nonempty m isTaken
    have isNext : next = m.stop := by
      simp only [resume?,Span.isEmpty,Nat.not_le.mpr nonempty,decide_false,Bool.false_eq_true,
        if_false,Option.some.injEq] at further
      exact further.symm
    subst isNext
    have overlap (m' : Span) (isTaken' : taken m') (before : m'.start < m.stop) :=
      covers.eq_or_before unique isTaken isTaken' before
    obtain ⟨members,sorted⟩ := ih (fun within' => .next (visits within) found further within')
      (fun m' isTaken' before => by rcases overlap m' isTaken' before with rfl | le <;> omega)
    refine ⟨fun m' => ?_,List.pairwise_cons.mpr ⟨fun b member => ((members b).mp member).2,sorted⟩⟩
    rw [List.mem_cons,members]
    constructor
    · rintro (rfl | ⟨isTaken',behind⟩)
      · exact ⟨isTaken,after⟩
      · exact ⟨isTaken',by omega⟩
    · rintro ⟨isTaken',notBefore⟩
      by_cases behind : m.stop ≤ m'.start
      · exact .inr ⟨isTaken',behind⟩
      · refine .inl ((overlap m' isTaken' (by omega)).resolve_right fun le => ?_)
        have := least m' (covers.isHit m' isTaken') notBefore
        have := covers.nonempty m' isTaken'
        omega

theorem Run.exists_visit {offset : Nat} {spans : List Span} (run : Run search text offset spans)
    (visits : offset ≤ text.bytes → Visits search text offset) :
    ∀ m ∈ spans, ∃ offset, Visits search text offset ∧ search text offset = .ok (some m) := by
  induction run with
  | behind | nothing => simp
  | @found offset m next ms within found further _ ih =>
    have later := ih fun within' => .next (visits within) found further within'
    simpa using ⟨⟨offset,visits within,found⟩,later⟩

/-- A scan ends and takes exactly a set of hits that covers all of them. -/
theorem findAll_of_covers (sound : search.Sound) (covers : Covers hit taken)
    (unique : ∀ h h', hit h → hit h' → h.start = h'.start → h = h')
    (inside : ∀ h, hit h → h.stop ≤ text.bytes)
    (answers : ∀ offset, Visits search text offset → search.AnswersFirst text hit offset) :
    ∃ spans, findAll search text = .ok spans ∧ (∀ m, m ∈ spans ↔ taken m) ∧
      spans.Pairwise fun a b => a.stop ≤ b.start := by
  obtain ⟨spans,run⟩ : ∃ spans, Run search text 0 spans := by
    refine (ends_iff sound text).mpr fun offset visits => ?_
    have first := answers offset visits
    rw [Search.AnswersFirst] at first
    cases found : search text offset with
    | error fault => simp [found] at first
    | ok answer =>
      refine ⟨answer,rfl,?_⟩
      rintro m ⟨⟩ held
      rw [found] at first
      have := first.2.1
      omega
  obtain ⟨members,sorted⟩ := run.mem_iff covers unique inside answers (fun _ => .start)
    (fun m _ before => by omega)
  exact ⟨spans,(findAll_eq_ok_iff sound text spans).mpr run,by simpa using members,sorted⟩

end Scan

namespace Span

variable {spans spans' : List Span}

theorem apart_of_pairwise (sorted : spans.Pairwise fun a b => a.stop ≤ b.start)
    (nonempty : ∀ m ∈ spans, m.start < m.stop) {m m' : Span} (member : m ∈ spans)
    (member' : m' ∈ spans) (less : m.start < m'.start) : m.stop ≤ m'.start := by
  induction sorted with
  | nil => simp at member
  | @cons first rest behind _ ih =>
    have sooner := nonempty first (by simp)
    rcases List.mem_cons.mp member with rfl | inRest
    · rcases List.mem_cons.mp member' with rfl | inRest'
      · omega
      · exact behind m' inRest'
    · rcases List.mem_cons.mp member' with rfl | inRest'
      · have := behind m inRest
        omega
      · exact ih (fun x inRest => nonempty x (by simp [inRest])) inRest inRest'

theorem eq_of_starts (sorted : spans.Pairwise fun a b => a.start < b.start)
    (sorted' : spans'.Pairwise fun a b => a.start < b.start)
    (same : ∀ m, m ∈ spans ↔ m ∈ spans') : spans = spans' := by
  have irrefl : Std.Irrefl fun a b : Span => a.start < b.start := ⟨fun a => Nat.lt_irrefl _⟩
  have antisymm : Std.Antisymm fun a b : Span => a.start < b.start :=
    ⟨fun a b less less' => absurd less (by omega)⟩
  exact sorted.eq_of_mem_iff sorted' same

theorem eq_of_mem_iff
    (sorted : spans.Pairwise fun a b => a.stop ≤ b.start)
    (sorted' : spans'.Pairwise fun a b => a.stop ≤ b.start)
    (nonempty : ∀ m ∈ spans, m.start < m.stop) (same : ∀ m, m ∈ spans ↔ m ∈ spans') :
    spans = spans' := by
  have strict {xs : List Span} (sorted : xs.Pairwise fun a b => a.stop ≤ b.start)
      (nonempty : ∀ m ∈ xs, m.start < m.stop) : xs.Pairwise fun a b => a.start < b.start := by
    refine sorted.imp_of_mem fun {a b} member _ le => ?_
    have := nonempty a member
    omega
  exact eq_of_starts (strict sorted nonempty)
    (strict sorted' fun m member => nonempty m ((same m).mpr member)) same

end Span

end Highlighting
