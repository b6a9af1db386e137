/-!
Text and byte offsets.

A text is its list of characters, and an offset into it counts the bytes of its UTF-8 form. A
text can be cut only between two characters, so `cut` and `slice?` are partial: they have no answer
inside a character or behind the end.
-/
namespace Highlighting

abbrev Text := List Char

namespace Text

def bytes : Text → Nat
  | [] => 0
  | c :: rest => c.utf8Size + bytes rest

@[simp] theorem bytes_nil : bytes [] = 0 := rfl

@[simp] theorem bytes_cons (c : Char) (s : Text) : bytes (c :: s) = c.utf8Size + bytes s := rfl

@[simp] theorem bytes_append (s t : Text) : bytes (s ++ t) = bytes s + bytes t := by
  induction s with
  | nil => simp
  | cons c s ih => simp [ih, Nat.add_assoc]

def cut : Text → Nat → Option (Text × Text)
  | s, 0 => some ([], s)
  | [], _ + 1 => none
  | c :: rest, n + 1 =>
    if n + 1 < c.utf8Size then none
    else (cut rest (n + 1 - c.utf8Size)).map fun parts => (c :: parts.1, parts.2)

/-- The parts of a text before and from a byte offset. The first one is backwards, and in front of
`before`. -/
def cutBack (before : Text) : Text → Nat → Option (Text × Text)
  | s, 0 => some (before, s)
  | [], _ + 1 => none
  | c :: rest, n + 1 =>
    if n + 1 < c.utf8Size then none else cutBack (c :: before) rest (n + 1 - c.utf8Size)

theorem cutBack_eq (before s : Text) (offset : Nat) :
    cutBack before s offset =
      (cut s offset).map fun parts => (parts.1.reverse ++ before, parts.2) := by
  induction s generalizing before offset with
  | nil => cases offset <;> simp [cutBack, cut]
  | cons c s ih =>
    cases offset with
    | zero => simp [cutBack, cut]
    | succ n =>
      simp only [cutBack, cut]
      split
      · rfl
      · rw [ih, Option.map_map]
        simp [Function.comp_def]

theorem bytes_cutBack {before s : Text} {offset : Nat} {parts : Text × Text}
    (h : cutBack before s offset = some parts) : bytes parts.1 = bytes before + offset := by
  induction s generalizing before offset with
  | nil =>
    cases offset with
    | zero => cases h; rfl
    | succ n => cases h
  | cons c s ih =>
    cases offset with
    | zero => cases h; rfl
    | succ n =>
      simp only [cutBack] at h
      split at h
      · cases h
      · rw [ih h, bytes_cons]
        omega

def slice? (s : Text) (start stop : Nat) : Option Text :=
  (cut s stop).bind fun parts => (cut parts.1 start).map (·.2)

/-- Whether a text stands before another one, or is the same, in the order of characters. The
bytes of their UTF-8 forms are in the same order. -/
def precedes : Text → Text → Bool
  | [], _ => true
  | _ :: _, [] => false
  | c :: s, d :: t => if c = d then precedes s t else c.toNat < d.toNat

end Text

/-- A range of byte offsets; the character at `stop` is no longer part of it. -/
structure Span where
  start : Nat
  stop : Nat
  deriving DecidableEq, Repr, Inhabited

namespace Span

def isEmpty (s : Span) : Bool := s.stop ≤ s.start

end Span

end Highlighting
