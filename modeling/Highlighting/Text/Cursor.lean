import Highlighting.Text.Basic

/-!
A place in a text, with all that stands before it and after it.

What stands before is kept backwards, so that both neighbours of the place are heads of lists
and both moves take one step.
-/
namespace Highlighting

structure Cursor where
  before : Text
  after : Text
  offset : Nat
  offset_eq : offset = Text.bytes before

namespace Cursor

def ofText (text : Text) : Cursor := ⟨[], text, 0, rfl⟩

def text (c : Cursor) : Text := c.before.reverse ++ c.after

def next? (c : Cursor) : Option (Char × Cursor) :=
  match c with
  | ⟨before, ch :: after, offset, h⟩ =>
    some (ch, ⟨ch :: before, after, ch.utf8Size + offset, by simp [h]⟩)
  | ⟨_, [], _, _⟩ => none

def previous? (c : Cursor) : Option Cursor :=
  match c with
  | ⟨ch :: before, after, offset, h⟩ =>
    some ⟨before, ch :: after, offset - ch.utf8Size, by simp [h]⟩
  | ⟨[], _, _, _⟩ => none

def back? : Nat → Cursor → Option Cursor
  | 0, c => some c
  | count + 1, c => (previous? c).bind (back? count)

/-- The place at a byte offset of a text, if it lies between two characters. -/
def at? (text : Text) (offset : Nat) : Option Cursor :=
  match h : Text.cutBack [] text offset with
  | some parts => some ⟨parts.1, parts.2, offset, by simpa using (Text.bytes_cutBack h).symm⟩
  | none => none

theorem at?_eq (text : Text) (offset : Nat) :
    at? text offset = (Text.cut text offset).map fun parts =>
      ⟨parts.1.reverse, parts.2, Text.bytes parts.1.reverse, rfl⟩ := by
  unfold at?
  split
  · next parts h =>
    have size := Text.bytes_cutBack h
    rw [Text.cutBack_eq, Option.map_eq_some_iff] at h
    obtain ⟨pair, cutting, rfl⟩ := h
    simp at size
    simp [cutting, size]
  · next h =>
    rw [Text.cutBack_eq, Option.map_eq_none_iff] at h
    simp [h]

end Cursor

end Highlighting
