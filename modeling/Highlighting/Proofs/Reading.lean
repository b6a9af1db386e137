import Highlighting.Proofs.Onward

/-! The text that lies between two places. Places of a text and the ways to cut it in two are the
same thing, so what a match has read is given by what its two places have before and after them. -/
namespace Highlighting.Cursor

def between (before after : Text) : Cursor :=
  ⟨before.reverse,after,Text.bytes before.reverse,rfl⟩

@[simp] theorem between_before (before after : Text) :
    (between before after).before = before.reverse := rfl

@[simp] theorem between_after (before after : Text) : (between before after).after = after := rfl

@[simp] theorem between_text (before after : Text) :
    (between before after).text = before ++ after := by
  simp [between,text]

@[simp] theorem between_offset (before after : Text) :
    (between before after).offset = before.bytes := by
  simp [between]

theorem eq_of_sides {c d : Cursor} (before : c.before = d.before) (after : c.after = d.after) :
    c = d := by
  obtain ⟨b,a,offset,size⟩ := c
  obtain ⟨b',a',offset',size'⟩ := d
  cases before
  cases after
  cases size
  cases size'
  rfl

theorem at?_between (before after : Text) :
    at? (before ++ after) before.bytes = some (between before after) := by
  rw [at?_eq,Text.cut_append]
  rfl

/-- The place `d` lies behind the text `w`, which follows the place `c`. -/
structure Reads (c : Cursor) (w : Text) (d : Cursor) : Prop where
  after : c.after = w ++ d.after
  before : d.before = w.reverse ++ c.before

variable {c d e : Cursor} {v w : Text}

theorem Reads.text (reads : c.Reads w d) : d.text = c.text := by
  simp [Cursor.text,reads.after,reads.before]

theorem Reads.offset (reads : c.Reads w d) : d.offset = c.offset + w.bytes := by
  rw [c.offset_eq,d.offset_eq,reads.before]
  simp [Nat.add_comm]

theorem Reads.onward (reads : c.Reads w d) : c.Onward d :=
  ⟨reads.text,by rw [reads.offset]; omega⟩

theorem reads_between (before after : Text) :
    (between before (w ++ after)).Reads w (between (before ++ w) after) :=
  ⟨rfl,by simp⟩

theorem exists_reads {rest : Text} (same : c.after = w ++ rest) :
    ∃ d, c.Reads w d ∧ d.after = rest := by
  refine ⟨between (c.before.reverse ++ w) rest,⟨same,by simp⟩,rfl⟩

@[simp] theorem reads_nil : c.Reads [] d ↔ d = c := by
  constructor
  · rintro ⟨after,before⟩
    exact eq_of_sides (by simpa using before) (by simpa using after.symm)
  · rintro rfl
    exact ⟨rfl,rfl⟩

theorem reads_append : c.Reads (v ++ w) e ↔ ∃ d, c.Reads v d ∧ d.Reads w e := by
  constructor
  · intro reads
    obtain ⟨d,first,after⟩ := exists_reads (reads.after.trans (List.append_assoc ..))
    exact ⟨d,first,after,by rw [reads.before,first.before]; simp⟩
  · rintro ⟨d,first,second⟩
    exact ⟨by rw [first.after,second.after]; simp,by rw [second.before,first.before]; simp⟩

theorem reads_cons {ch : Char} : c.Reads (ch :: w) e ↔ ∃ d, c.Reads [ch] d ∧ d.Reads w e :=
  @reads_append c e [ch] w

theorem next?_eq_some {ch : Char} : c.next? = some (ch,d) ↔ c.Reads [ch] d := by
  obtain ⟨before,after,offset,size⟩ := c
  constructor
  · intro step
    cases after with
    | nil => simp [next?] at step
    | cons first after =>
      simp only [next?,Option.some.injEq,Prod.mk.injEq] at step
      obtain ⟨rfl,rfl⟩ := step
      exact ⟨rfl,rfl⟩
  · rintro ⟨same,behind⟩
    subst same
    simp only [next?,List.singleton_append,Option.some.injEq,Prod.mk.injEq,true_and]
    exact eq_of_sides (by simpa using behind.symm) rfl

theorem length_next? {ch : Char} (step : c.next? = some (ch,d)) :
    c.after.length = d.after.length + 1 := by
  rw [(next?_eq_some.mp step).after,List.length_append,List.length_singleton,Nat.add_comm]

theorem next?_eq_none : c.next? = none ↔ c.after = [] := by
  obtain ⟨before,_ | ⟨first,after⟩,offset,size⟩ := c <;> simp [next?]

/-- Places onward of a place are those behind a text that follows it. -/
theorem Onward.reads (onward : c.Onward d) : ∃ w, c.Reads w d := by
  have same : d.before.reverse ++ d.after = c.before.reverse ++ c.after := onward.text
  have further : Text.bytes c.before ≤ Text.bytes d.before := by
    rw [← c.offset_eq,← d.offset_eq]
    exact onward.offset
  rcases List.append_eq_append_iff.mp same with ⟨more,before,after⟩ | ⟨more,before,after⟩
  · have size := congrArg Text.bytes before
    simp only [Text.bytes_reverse,Text.bytes_append] at size
    have none : more = [] := (Text.bytes_eq_zero_iff more).mp (by omega)
    subst none
    refine ⟨[],?_⟩
    rw [reads_nil]
    exact eq_of_sides (by simpa using before.symm) (by simpa using after)
  · exact ⟨more,after,by simpa using congrArg List.reverse before⟩

theorem eq_of_offset (text : d.text = c.text) (offset : d.offset = c.offset) : d = c := by
  obtain ⟨w,reads⟩ := Onward.reads ⟨text,Nat.le_of_eq offset.symm⟩
  have size := reads.offset
  rw [(Text.bytes_eq_zero_iff w).mp (by omega)] at reads
  exact reads_nil.mp reads

/-- Either the place is the same, or fewer characters follow it. -/
theorem Onward.eq_or_lt (onward : c.Onward d) : d = c ∨ d.after.length < c.after.length := by
  obtain ⟨_ | ⟨ch,w⟩,reads⟩ := onward.reads
  · exact .inl (reads_nil.mp reads)
  · right
    have size := congrArg List.length reads.after
    simp only [List.length_append,List.length_cons] at size
    omega

/-- A place onward of another one is that place itself or onward of the next one. -/
theorem Onward.eq_or_next {ch : Char} (onward : c.Onward e) (step : c.next? = some (ch,d)) :
    e = c ∨ d.Onward e := by
  obtain ⟨_ | ⟨ch',w⟩,reads⟩ := onward.reads
  · exact .inl (reads_nil.mp reads)
  · right
    obtain ⟨m,first,rest⟩ := reads_cons.mp reads
    have same := next?_eq_some.mpr first
    rw [step] at same
    cases same
    exact rest.onward

theorem Onward.length_le (onward : c.Onward d) : d.after.length ≤ c.after.length := by
  rcases onward.eq_or_lt with rfl | less <;> omega

end Highlighting.Cursor
