import Mathlib.Data.List.Basic
import Highlighting.Text.Cursor

/-! Boundaries between the characters of a text. A boundary is a byte offset at which `cut`
answers; the characters behind it measure how much of the text is left. -/
namespace Highlighting

namespace Text

/-- The offset lies between two characters, or at an end of the text. -/
def IsBoundary (text : Text) (offset : Nat) : Prop :=
  ∃ before after : Text, text = before ++ after ∧ before.bytes = offset

theorem isBoundary_zero (text : Text) : text.IsBoundary 0 := ⟨[],text,rfl,rfl⟩

theorem IsBoundary.le {text : Text} {offset : Nat} (boundary : text.IsBoundary offset) :
    offset ≤ text.bytes := by
  obtain ⟨before,after,rfl,rfl⟩ := boundary
  simp

theorem bytes_eq_zero_iff (text : Text) : text.bytes = 0 ↔ text = [] := by
  cases text with
  | nil => simp
  | cons c text => have positive := c.utf8Size_pos; simp; omega

theorem cut_append (before after : Text) :
    cut (before ++ after) before.bytes = some (before,after) := by
  induction before with
  | nil => cases after <;> rfl
  | cons c before ih =>
    obtain ⟨n,size⟩ : ∃ n, bytes (c :: before) = n + 1 :=
      Nat.exists_eq_succ_of_ne_zero (mt (bytes_eq_zero_iff _).mp (List.cons_ne_nil c before))
    have rest : n + 1 - c.utf8Size = bytes before := by rw [← size]; simp
    have fits : ¬ n + 1 < c.utf8Size := by rw [← size]; simp
    rw [size]
    simp [cut,fits,rest,ih]

theorem cut_eq_some_iff (text : Text) (offset : Nat) (before after : Text) :
    cut text offset = some (before,after) ↔ text = before ++ after ∧ before.bytes = offset := by
  constructor
  · induction text generalizing offset before with
    | nil =>
      intro cutting
      cases offset with
      | zero =>
        simp only [cut,Option.some.injEq,Prod.mk.injEq] at cutting
        simp [← cutting.1,← cutting.2]
      | succ n => simp [cut] at cutting
    | cons c text ih =>
      intro cutting
      cases offset with
      | zero =>
        simp only [cut,Option.some.injEq,Prod.mk.injEq] at cutting
        simp [← cutting.1,← cutting.2]
      | succ n =>
        simp only [cut] at cutting
        split at cutting
        · contradiction
        next fits =>
          obtain ⟨⟨first,last⟩,inner,equal⟩ := Option.map_eq_some_iff.mp cutting
          obtain ⟨rfl,rfl⟩ := Prod.mk.inj equal
          obtain ⟨rfl,size⟩ := ih _ _ inner
          exact ⟨rfl,by simp only [bytes_cons]; omega⟩
  · rintro ⟨rfl,rfl⟩
    exact cut_append before after

/-- Between two offsets, a text has a part only if both are boundaries. -/
theorem slice?_eq_some_iff {text part : Text} {start stop : Nat} :
    text.slice? start stop = some part ↔
      ∃ before after : Text, text = before ++ (part ++ after) ∧ before.bytes = start ∧
        start + part.bytes = stop := by
  simp only [slice?,Option.bind_eq_some_iff,Option.map_eq_some_iff,Prod.exists,cut_eq_some_iff]
  constructor
  · rintro ⟨front,after,⟨rfl,size⟩,before,_,⟨rfl,rfl⟩,rfl⟩
    exact ⟨before,after,by simp,rfl,by simpa using size⟩
  · rintro ⟨before,after,rfl,rfl,rfl⟩
    exact ⟨before ++ part,after,⟨by simp,by simp⟩,before,part,⟨rfl,rfl⟩,rfl⟩

/-- The further a text is cut, the fewer characters are left behind the cut. -/
theorem length_after_lt {before after before' after' : Text}
    (same : before ++ after = before' ++ after') (further : before.bytes < before'.bytes) :
    after'.length < after.length := by
  rcases List.append_eq_append_iff.mp same with ⟨more,rfl,rfl⟩ | ⟨more,rfl,rfl⟩
  · cases more with
    | nil => simp at further
    | cons c more => simp only [List.length_append,List.length_cons]; omega
  · simp only [bytes_append] at further
    omega

theorem IsBoundary.split_off {before rest : Text} {offset : Nat}
    (boundary : Text.IsBoundary (before ++ rest) offset) (behind : before.bytes ≤ offset) :
    ∃ inside after : Text, rest = inside ++ after ∧ before.bytes + inside.bytes = offset := by
  obtain ⟨first,after,same,rfl⟩ := boundary
  rcases List.append_eq_append_iff.mp same with ⟨inside,rfl,rfl⟩ | ⟨more,rfl,rfl⟩
  · exact ⟨inside,after,rfl,by simp⟩
  · have none : bytes more = 0 := by simp only [bytes_append] at behind; omega
    rw [(bytes_eq_zero_iff more).mp none]
    exact ⟨[],rest,rfl,by simp⟩

theorem IsBoundary.slice? {text : Text} {start stop : Nat} (first : text.IsBoundary start)
    (last : text.IsBoundary stop) (ordered : start ≤ stop) :
    ∃ part, text.slice? start stop = some part := by
  obtain ⟨before,rest,rfl,rfl⟩ := first
  obtain ⟨part,after,rfl,size⟩ := last.split_off ordered
  exact ⟨part,slice?_eq_some_iff.mpr ⟨before,after,rfl,rfl,size⟩⟩

@[simp] theorem bytes_reverse (text : Text) : bytes text.reverse = bytes text := by
  induction text with
  | nil => rfl
  | cons c text ih => simp [ih,Nat.add_comm]

end Text

namespace Cursor

theorem isBoundary (c : Cursor) : c.text.IsBoundary c.offset :=
  ⟨c.before.reverse,c.after,rfl,by rw [c.offset_eq]; simp⟩

end Cursor

end Highlighting
