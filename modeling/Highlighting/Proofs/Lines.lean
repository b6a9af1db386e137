import Highlighting.Proofs.Boundary

/-! The lines of a text, each with its place in the text and the character that ends it. Every place
of the text lies in one of them: in its content, or right behind it. -/
namespace Highlighting.Text

def endsLine (c : Char) : Bool := c == '\n' || c == '\r' || c == '\u2028' || c == '\u2029'

/-- What stands before the first character with a property is determined by the text. -/
theorem eq_of_first {ends : Char → Bool} {v v' r r' : Text} {c c' : Char}
    (none : ∀ x ∈ v, ends x = false) (none' : ∀ x ∈ v', ends x = false) (here : ends c)
    (here' : ends c') (same : v ++ c :: r = v' ++ c' :: r') : v = v' ∧ c = c' ∧ r = r' := by
  have first {w : Text} {x : Char} {s : Text} (none : ∀ y ∈ w, ends y = false) (here : ends x) :
      (w ++ x :: s).takeWhile (!ends ·) = w := by
    rw [List.takeWhile_append_of_pos (by simpa using none)]
    simp [here]
  have equal : v = v' := by
    rw [← first none here,same,first none' here']
  subst equal
  simpa using same

/-- A line begins at the offset `start`. Nothing ends the last line of a text. -/
structure Line where
  start : Nat
  content : Text
  ending : Option Char
  deriving DecidableEq, Repr

namespace Line

def stop (line : Line) : Nat :=
  line.start + line.content.bytes + Text.bytes line.ending.toList

/-- The lines from an offset on; the first of them has a part of its content already. -/
def allFrom (start : Nat) (content : Text) : Text → List Line
  | [] => [⟨start,content,none⟩]
  | c :: rest =>
    if endsLine c then
      ⟨start,content,some c⟩ :: allFrom (start + content.bytes + c.utf8Size) [] rest
    else allFrom start (content ++ [c]) rest

def all (text : Text) : List Line := allFrom 0 [] text

/-- The line lies between two parts of the text. -/
structure Lies (line : Line) (text before after : Text) : Prop where
  text : text = before ++ (line.content ++ (line.ending.toList ++ after))
  start : line.start = before.bytes
  content : ∀ c ∈ line.content, endsLine c = false
  ending : ∀ c, line.ending = some c → endsLine c
  last : line.ending = none → after = []

variable {line : Line} {start : Nat} {text done content : Text}

theorem lies_of_mem_from (within : ∀ c ∈ content, endsLine c = false)
    (member : line ∈ allFrom done.bytes content text) :
    ∃ before after, line.Lies (done ++ (content ++ text)) before after := by
  induction text generalizing done content with
  | nil =>
    simp only [allFrom,List.mem_singleton] at member
    subst member
    exact ⟨done,[],by simp,rfl,within,by simp,fun _ => rfl⟩
  | cons c text ih =>
    by_cases isEnd : endsLine c
    · simp only [allFrom,isEnd,if_true,List.mem_cons] at member
      rcases member with rfl | member
      · exact ⟨done,text,by simp,rfl,within,by simpa using isEnd,by simp⟩
      · have later := @ih (done ++ (content ++ [c])) [] (by simp)
          (by simpa [Nat.add_assoc] using member)
        simpa using later
    · simp only [allFrom,isEnd,Bool.false_eq_true,if_false] at member
      have later := ih (by simpa [or_imp,forall_and] using ⟨within,by simpa using isEnd⟩) member
      simpa using later

theorem lies_of_mem (member : line ∈ all text) : ∃ before after, line.Lies text before after :=
  @lies_of_mem_from line text [] [] (by simp) member

theorem exists_mem_from (within : ∀ c ∈ content, endsLine c = false) {b a : Text}
    (cut : content ++ text = b ++ a) :
    ∃ line ∈ allFrom done.bytes content text, ∃ before after pre post,
      line.Lies (done ++ (content ++ text)) before after ∧ line.content = pre ++ post ∧
        done ++ b = before ++ pre ∧ a = post ++ (line.ending.toList ++ after) := by
  induction text generalizing done content b with
  | nil =>
    refine ⟨⟨done.bytes,content,none⟩,by simp [allFrom],done,[],b,a,?_,?_,rfl,?_⟩
    · exact ⟨by simp,rfl,within,by simp,fun _ => rfl⟩
    · simpa using cut
    · simp
  | cons c text ih =>
    by_cases isEnd : endsLine c
    · simp only [allFrom,isEnd,if_true,List.exists_mem_cons_iff]
      have here : Lies ⟨done.bytes,content,some c⟩ (done ++ (content ++ c :: text)) done text :=
        ⟨by simp,rfl,within,by simpa using isEnd,by simp⟩
      rcases List.append_eq_append_iff.mp cut with ⟨_ | ⟨c',more⟩,rfl,same⟩ | ⟨more,rfl,rfl⟩
      · exact .inl ⟨done,text,content,[],here,by simp,by simp,by simpa using same.symm⟩
      · -- The place lies behind the end of this line.
        obtain ⟨rfl,rfl⟩ := List.cons.inj same
        obtain ⟨line,member,later⟩ := @ih (done ++ (content ++ [c])) [] (by simp) more rfl
        refine .inr ⟨line,by simpa [Nat.add_assoc] using member,?_⟩
        simpa using later
      · exact .inl ⟨done,text,b,more,here,rfl,rfl,rfl⟩
    · have later := @ih done (content ++ [c]) (by simpa [or_imp,forall_and] using ⟨within,by simpa using isEnd⟩)
        b (by simpa using cut)
      simp only [allFrom,isEnd,Bool.false_eq_true,if_false]
      simpa using later

theorem exists_mem (before after : Text) :
    ∃ line ∈ all (before ++ after), ∃ done rest pre post,
      line.Lies (before ++ after) done rest ∧ line.content = pre ++ post ∧
        before = done ++ pre ∧ after = post ++ (line.ending.toList ++ rest) :=
  @exists_mem_from (before ++ after) [] [] (by simp) before after rfl

/-- What stands behind a place of a line and ends no line belongs to the line. -/
theorem Lies.exists_more {before after post v rest : Text} (lies : line.Lies text before after)
    (same : v ++ rest = post ++ (line.ending.toList ++ after))
    (within : ∀ c ∈ v, endsLine c = false) :
    ∃ more, post = v ++ more ∧ rest = more ++ (line.ending.toList ++ after) := by
  rcases List.append_eq_append_iff.mp same with ⟨more,rfl,rfl⟩ | ⟨_ | ⟨c,more⟩,rfl,tail⟩
  · exact ⟨more,rfl,rfl⟩
  · exact ⟨[],by simp,tail.symm⟩
  · have inLine := within c (by simp)
    cases isEnding : line.ending with
    | none =>
      rw [isEnding,lies.last isEnding] at tail
      simp at tail
    | some e =>
      rw [isEnding] at tail
      obtain ⟨rfl,_⟩ := List.cons.inj tail
      simp [lies.ending e isEnding] at inLine

theorem le_start_of_mem_from (member : line ∈ allFrom start content text) : start ≤ line.start := by
  induction text generalizing start content with
  | nil =>
    simp only [allFrom,List.mem_singleton] at member
    subst member
    exact Nat.le_refl _
  | cons c text ih =>
    by_cases isEnd : endsLine c
    · simp only [allFrom,isEnd,if_true,List.mem_cons] at member
      rcases member with rfl | member
      · exact Nat.le_refl _
      · have := ih member
        omega
    · simp only [allFrom,isEnd,Bool.false_eq_true,if_false] at member
      exact ih member

theorem pairwise_from (start : Nat) (content text : Text) :
    (allFrom start content text).Pairwise fun a b => a.stop ≤ b.start := by
  induction text generalizing start content with
  | nil => simp [allFrom]
  | cons c text ih =>
    by_cases isEnd : endsLine c
    · simp only [allFrom,isEnd,if_true,List.pairwise_cons]
      refine ⟨fun line member => ?_,ih _ _⟩
      simpa [stop] using le_start_of_mem_from member
    · simp only [allFrom,isEnd,Bool.false_eq_true,if_false]
      exact ih _ _

theorem pairwise_all (text : Text) : (all text).Pairwise fun a b => a.stop ≤ b.start :=
  pairwise_from 0 [] text

/-- A way to take at most one part of a line, which is not empty. -/
def OnLine (take : Line → Option Span) : Prop :=
  ∀ line m, take line = some m → line.start ≤ m.start ∧ m.start < m.stop ∧ m.stop ≤ line.stop

variable {take : Line → Option Span}

theorem OnLine.sorted (onLine : OnLine take) (text : Text) :
    ((all text).filterMap take).Pairwise fun a b => a.stop ≤ b.start := by
  refine (pairwise_all text).filterMap take fun line line' behind m taken m' taken' => ?_
  have := onLine line m taken
  have := onLine line' m' taken'
  omega

theorem OnLine.nonempty (onLine : OnLine take) (text : Text) :
    ∀ m ∈ (all text).filterMap take, m.start < m.stop := by
  intro m member
  obtain ⟨line,_,taken⟩ := List.mem_filterMap.mp member
  exact (onLine line m taken).2.1

end Line

end Highlighting.Text
