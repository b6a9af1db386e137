import Highlighting.Proofs.Reading

/-! What a regular expression matches, apart from how its matches are found. Which of several ways
is preferred is left open here, and so is what has been tried before. -/
namespace Highlighting.Pattern.Regular

/-- The expression matches what lies between two places. -/
inductive Matches : Regular → Cursor → Cursor → Prop where
  | empty {c} : Matches .empty c c
  | one {set ch c d} : c.Reads [ch] d → set.contains ch → Matches (.one set) c d
  | look {condition c} : condition.holds c → Matches (.look condition) c c
  | group {index body c d} : Matches body c d → Matches (.group index body) c d
  | seq {first second c d e} : Matches first c d → Matches second d e →
      Matches (.seq first second) c e
  | altFirst {first second c d} : Matches first c d → Matches (.alt first second) c d
  | altSecond {first second c d} : Matches second c d → Matches (.alt first second) c d
  | manyDone {body most greedy c} : Matches (.many body 0 most greedy) c c
  | manyMore {body least most greedy c d e} : (least = 0 → most ≠ some 0) → Matches body c d →
      Matches (.many body (least - 1) (most.map (· - 1)) greedy) d e →
      Matches (.many body least most greedy) c e

variable {c d : Cursor}

theorem matches_empty : Matches .empty c d ↔ d = c := by
  constructor
  · rintro ⟨⟩
    rfl
  · rintro rfl
    exact .empty

theorem matches_one {set : CharSet} :
    Matches (.one set) c d ↔ ∃ ch, set.contains ch ∧ c.Reads [ch] d := by
  constructor
  · intro matched
    cases matched with
    | one reads member => exact ⟨_,member,reads⟩
  · rintro ⟨ch,member,reads⟩
    exact .one reads member

theorem matches_look {condition : Look} :
    Matches (.look condition) c d ↔ condition.holds c ∧ d = c := by
  constructor
  · intro matched
    cases matched with
    | look holds => exact ⟨holds,rfl⟩
  · rintro ⟨holds,rfl⟩
    exact .look holds

theorem matches_group {index : Nat} {body : Regular} :
    Matches (.group index body) c d ↔ body.Matches c d := by
  constructor
  · intro matched
    cases matched with
    | group matched => exact matched
  · exact .group

theorem matches_seq {first second : Regular} :
    Matches (.seq first second) c d ↔ ∃ m, first.Matches c m ∧ second.Matches m d := by
  constructor
  · intro matched
    cases matched with
    | seq left right => exact ⟨_,left,right⟩
  · rintro ⟨m,left,right⟩
    exact .seq left right

theorem matches_alt {first second : Regular} :
    Matches (.alt first second) c d ↔ first.Matches c d ∨ second.Matches c d := by
  constructor
  · intro matched
    cases matched with
    | altFirst matched => exact .inl matched
    | altSecond matched => exact .inr matched
  · rintro (matched | matched)
    · exact .altFirst matched
    · exact .altSecond matched

theorem matches_star {body : Regular} {greedy : Bool} :
    Matches (.many body 0 none greedy) c d ↔
      d = c ∨ ∃ m, body.Matches c m ∧ Matches (.many body 0 none greedy) m d := by
  constructor
  · intro matched
    cases matched with
    | manyDone => exact .inl rfl
    | manyMore _ first rest => exact .inr ⟨_,first,rest⟩
  · rintro (rfl | ⟨m,first,rest⟩)
    · exact .manyDone
    · exact .manyMore (by simp) first rest

theorem matches_plus {body : Regular} {greedy : Bool} :
    Matches (.many body 1 none greedy) c d ↔
      ∃ m, body.Matches c m ∧ Matches (.many body 0 none greedy) m d := by
  constructor
  · intro matched
    cases matched with
    | manyMore _ first rest => exact ⟨_,first,rest⟩
  · rintro ⟨m,first,rest⟩
    exact .manyMore (by simp) first rest

/-- Induction on the copies of an unbounded repetition. -/
theorem Matches.star_induction {body : Regular} {greedy : Bool}
    {motive : Cursor → Cursor → Prop} (done : ∀ c, motive c c)
    (more : ∀ c m d, body.Matches c m → motive m d → motive c d)
    (matched : Matches (.many body 0 none greedy) c d) : motive c d := by
  generalize isStar : Regular.many body 0 none greedy = star at matched
  induction matched with
  | empty | one | look | group | seq | altFirst | altSecond => cases isStar
  | manyDone => exact done _
  | manyMore _ first _ _ ih =>
    cases isStar
    exact more _ _ _ first (ih rfl)

theorem matches_star_one {set : CharSet} {greedy : Bool} :
    Matches (.many (.one set) 0 none greedy) c d ↔
      ∃ w, (∀ ch ∈ w, set.contains ch) ∧ c.Reads w d := by
  constructor
  · refine Matches.star_induction
      (motive := fun c d => ∃ w, (∀ ch ∈ w, set.contains ch) ∧ c.Reads w d)
      (fun c => ⟨[],by simp,by simp⟩) ?_
    rintro c m d first ⟨w,members,reads⟩
    obtain ⟨ch,member,step⟩ := matches_one.mp first
    exact ⟨ch :: w,by simpa using ⟨member,members⟩,Cursor.reads_cons.mpr ⟨_,step,reads⟩⟩
  · rintro ⟨w,members,reads⟩
    induction w generalizing c with
    | nil => rw [Cursor.reads_nil.mp reads]; exact .manyDone
    | cons ch w ih =>
      obtain ⟨m,first,rest⟩ := Cursor.reads_cons.mp reads
      exact matches_star.mpr (.inr ⟨m,.one first (members ch (by simp)),
        ih (fun x member => members x (by simp [member])) rest⟩)

end Highlighting.Pattern.Regular
