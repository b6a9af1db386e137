import Highlighting.Proofs.Cover
import Highlighting.Proofs.RegularSearch

/-! Parts of a text with a property. What a regular expression matches can be said without places:
a part occurs between what stands before it and what stands after it. -/
namespace Highlighting

namespace Text

/-- Of two ways to cut a text, one cuts what the other one leaves. -/
theorem exists_between {before after before' after' : Text}
    (same : before ++ after = before' ++ after') (le : before.bytes ≤ before'.bytes) :
    ∃ between, before' = before ++ between ∧ after = between ++ after' := by
  rcases List.append_eq_append_iff.mp same with ⟨more,rfl,rfl⟩ | ⟨more,rfl,rfl⟩
  · exact ⟨more,rfl,rfl⟩
  · simp only [bytes_append] at le
    rw [(bytes_eq_zero_iff more).mp (by omega)]
    exact ⟨[],by simp,by simp⟩

theorem cut_unique {before after before' after' : Text}
    (same : before ++ after = before' ++ after') (size : before.bytes = before'.bytes) :
    before = before' ∧ after = after' := by
  obtain ⟨between,rfl,rfl⟩ := exists_between same (Nat.le_of_eq size)
  simp only [bytes_append] at size
  rw [(bytes_eq_zero_iff between).mp (by omega)]
  exact ⟨by simp,by simp⟩

/-- A property of parts of texts, which may hang on what stands before and after them. -/
abbrev Property := (before inside after : Text) → Prop

def Occurs (part : Property) (text : Text) (m : Span) : Prop :=
  ∃ before inside after : Text, text = before ++ (inside ++ after) ∧ part before inside after ∧
    m = ⟨before.bytes,before.bytes + inside.bytes⟩

/-- At one place of a text at most one part has the property. -/
def Property.Unique (part : Property) : Prop :=
  ∀ before inside after inside' after', part before inside after → part before inside' after' →
    inside ++ after = inside' ++ after' → inside = inside'

variable {part : Property} {text : Text} {m m' : Span}

theorem Occurs.stop_le (occurs : Occurs part text m) : m.stop ≤ text.bytes := by
  obtain ⟨before,inside,after,rfl,_,rfl⟩ := occurs
  simp

theorem Occurs.unique (unique : part.Unique) (occurs : Occurs part text m)
    (occurs' : Occurs part text m') (start : m.start = m'.start) : m = m' := by
  obtain ⟨before,inside,after,same,holds,rfl⟩ := occurs
  obtain ⟨before',inside',after',same',holds',rfl⟩ := occurs'
  obtain ⟨rfl,rest⟩ := cut_unique (same.symm.trans same') start
  rw [unique _ _ _ _ _ holds holds' rest]

end Text

namespace Search

/-- Two searches that answer the same hits first are equal. -/
theorem AnswersFirst.eq {search search' : Search} {text : Text} {hit : Span → Prop} {offset : Nat}
    (first : search.AnswersFirst text hit offset) (first' : search'.AnswersFirst text hit offset)
    (unique : ∀ h h', hit h → hit h' → h.start = h'.start → h = h') :
    search text offset = search' text offset := by
  rw [AnswersFirst] at first first'
  split at first
  · contradiction
  · next none =>
    split at first'
    · contradiction
    · next none' => rw [none,none']
    · next m' _ =>
      have := first m' first'.1
      omega
  · next m some =>
    split at first'
    · contradiction
    · have := first' m first.1
      omega
    · next m' some' =>
      have le := first.2.2 m' first'.1 first'.2.1
      have le' := first'.2.2 m first.1 first.2.1
      rw [some,some',unique m m' first.1 first'.1 (by omega)]

/-- The answer to a search from a place: the first part behind it that has a property. -/
def FirstPart (part : Text.Property) (place : Cursor) : Option Span → Prop
  | none => ∀ c w d, place.Onward c → c.Reads w d → ¬ part c.before.reverse w d.after
  | some m => ∃ c w d, place.Onward c ∧ c.Reads w d ∧ part c.before.reverse w d.after ∧
      m = ⟨c.offset,d.offset⟩ ∧ ∀ c' w' d', place.Onward c' → c'.Reads w' d' →
        part c'.before.reverse w' d'.after → c.offset ≤ c'.offset

theorem answersFirst_of_firstPart {search : Search} {part : Text.Property} {before after : Text}
    {answer : Option Span} (answers : search (before ++ after) before.bytes = .ok answer)
    (first : FirstPart part (.between before after) answer) :
    search.AnswersFirst (before ++ after) (Text.Occurs part (before ++ after)) before.bytes := by
  have onward {b w a : Text} (same : before ++ after = b ++ (w ++ a)) (le : before.bytes ≤ b.bytes) :
      (Cursor.between before after).Onward (Cursor.between b (w ++ a)) :=
    ⟨by simp [same],by simpa using le⟩
  rw [AnswersFirst,answers]
  cases answer with
  | none =>
    rintro h ⟨b,w,a,same,holds,rfl⟩
    by_contra notBefore
    exact first _ w _ (onward same (by simpa using notBefore)) (Cursor.reads_between b a)
      (by simpa using holds)
  | some m =>
    obtain ⟨c,w,d,isOnward,reads,holds,rfl,least⟩ := first
    have inText := isOnward.text
    have size := reads.offset
    simp only [Cursor.between_text] at inText
    refine ⟨⟨c.before.reverse,w,d.after,?_,holds,?_⟩,by simpa using isOnward.offset,?_⟩
    · rw [← inText,← reads.after]
      rfl
    · rw [size,c.offset_eq]
      simp
    · rintro h ⟨b,w,a,same,holds,rfl⟩ notBefore
      simpa using least _ w _ (onward same notBefore) (Cursor.reads_between b a)
        (by simpa using holds)

end Search

namespace Pattern.Regular

def Denotes (e : Regular) (part : Text.Property) : Prop :=
  ∀ c d, e.Matches c d ↔ ∃ w, c.Reads w d ∧ part c.before.reverse w d.after

theorem search?_firstPart {e : Regular} {part : Text.Property} (denotes : e.Denotes part)
    (place : Cursor) : Search.FirstPart part place (e.search? place) := by
  have result := e.search?_first place
  split at result
  · next none =>
    rw [none]
    exact fun c w d onward reads holds => result c d onward ((denotes c d).mpr ⟨w,reads,holds⟩)
  · next m some =>
    rw [some]
    obtain ⟨c,d,isFirst,rfl⟩ := result
    obtain ⟨w,reads,holds⟩ := (denotes c d).mp isFirst.matched
    exact ⟨c,w,d,isFirst.onward,reads,holds,rfl,fun c' w' d' onward reads holds =>
      isFirst.first c' d' onward ((denotes c' d').mpr ⟨w',reads,holds⟩)⟩

end Pattern.Regular

end Highlighting
