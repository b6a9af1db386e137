import Highlighting.Text.Basic
import Highlighting.Unicode.Classes

/-! Trimming, lines, and splitting at a character. -/
namespace Highlighting.Text

def trimStart (s : Text) : Text := s.dropWhile Unicode.isBlank

def trimEnd (s : Text) : Text := (s.reverse.dropWhile Unicode.isBlank).reverse

def trim (s : Text) : Text := trimEnd (trimStart s)

theorem trim_sublist (s : Text) : (trim s).Sublist s := by
  have atEnd : (trimEnd (trimStart s)).Sublist (trimStart s).reverse.reverse :=
    (List.dropWhile_sublist Unicode.isBlank).reverse
  rw [List.reverse_reverse] at atEnd
  exact atEnd.trans (List.dropWhile_sublist Unicode.isBlank)

def AllBlank (s : Text) : Prop := ∀ c ∈ s, Unicode.isBlank c

instance (s : Text) : Decidable (AllBlank s) :=
  List.decidableBAll (fun c => Unicode.isBlank c = true) s

theorem trimStart_around (s : Text) {c : Char} (visible : ¬ Unicode.isBlank c) (t : Text) :
    trimStart (s ++ c :: t) = trimStart s ++ c :: t := by
  rw [trimStart, trimStart, List.dropWhile_append, List.dropWhile_cons_of_neg visible]
  split
  · next empty => rw [List.isEmpty_iff.mp empty, List.nil_append]
  · rfl

theorem trimEnd_around (s : Text) {c : Char} (visible : ¬ Unicode.isBlank c) (t : Text) :
    trimEnd (s ++ c :: t) = s ++ c :: trimEnd t := by
  have reversed : (s ++ c :: t).reverse = t.reverse ++ c :: s.reverse := by simp
  have mirrored := trimStart_around t.reverse visible s.reverse
  rw [trimStart, trimStart] at mirrored
  rw [trimEnd, trimEnd, reversed, mirrored]
  simp

theorem trim_around (s : Text) {c : Char} (visible : ¬ Unicode.isBlank c) (t : Text) :
    trim (s ++ c :: t) = trimStart s ++ c :: trimEnd t := by
  rw [trim, trimStart_around s visible, trimEnd_around _ visible]

theorem trimStart_append {a : Text} (blank : AllBlank a) (s : Text) :
    trimStart (a ++ s) = trimStart s := List.dropWhile_append_of_pos blank

theorem trimEnd_append (s : Text) {b : Text} (blank : AllBlank b) :
    trimEnd (s ++ b) = trimEnd s := by
  have reversed : ∀ c ∈ b.reverse, Unicode.isBlank c := by simpa [AllBlank] using blank
  rw [trimEnd, trimEnd, List.reverse_append, List.dropWhile_append_of_pos reversed]

theorem trimStart_blank {a : Text} (blank : AllBlank a) : trimStart a = [] := by
  simpa [trimStart] using trimStart_append blank []

theorem trimEnd_blank {b : Text} (blank : AllBlank b) : trimEnd b = [] := trimEnd_append [] blank

theorem allBlank_or_shows (s : Text) :
    AllBlank s ∨ ∃ a c t, s = a ++ c :: t ∧ AllBlank a ∧ ¬ Unicode.isBlank c := by
  induction s with
  | nil => exact .inl (by simp [AllBlank])
  | cons c s ih =>
    by_cases blank : Unicode.isBlank c
    · rcases ih with all | ⟨a, d, t, rfl, before, shows⟩
      · exact .inl (List.forall_mem_cons.mpr ⟨blank, all⟩)
      · exact .inr ⟨c :: a, d, t, rfl, List.forall_mem_cons.mpr ⟨blank, before⟩, shows⟩
    · exact .inr ⟨[], c, s, rfl, by simp [AllBlank], blank⟩

/-- It does not matter which end is trimmed first. -/
theorem trim_eq (s : Text) : trim s = trimStart (trimEnd s) := by
  rcases allBlank_or_shows s with blank | ⟨a, c, t, rfl, _, shows⟩
  · rw [trim, trimStart_blank blank, trimEnd_blank blank]
    rfl
  · rw [trim_around a shows, trimEnd_around a shows, trimStart_around a shows]

theorem trimStart_trimStart (s : Text) : trimStart (trimStart s) = trimStart s := by
  rcases allBlank_or_shows s with blank | ⟨a, c, t, rfl, blank, shows⟩
  · rw [trimStart_blank blank]
    rfl
  · rw [trimStart_around a shows, trimStart_blank blank]
    exact trimStart_around [] shows t

theorem trimEnd_trimEnd (s : Text) : trimEnd (trimEnd s) = trimEnd s := by
  simp only [trimEnd, List.reverse_reverse]
  exact congrArg List.reverse (trimStart_trimStart s.reverse)

theorem trim_trimStart (s : Text) : trim (trimStart s) = trim s := by
  rw [trim, trimStart_trimStart, trim]

theorem trim_trimEnd (s : Text) : trim (trimEnd s) = trim s := by
  rw [trim_eq, trimEnd_trimEnd, ← trim_eq]

theorem trim_append {a b : Text} (before : AllBlank a) (s : Text) (behind : AllBlank b) :
    trim (a ++ (s ++ b)) = trim s := by
  rw [trim, trimStart_append before, ← trim, trim_eq, trimEnd_append s behind, ← trim_eq]

/-- The pieces between all occurrences of a character, at least one. -/
def splitOn (mark : Char) : Text → List Text
  | [] => [[]]
  | c :: rest =>
    match splitOn mark rest with
    | [] => [[]]
    | piece :: pieces => if c = mark then [] :: piece :: pieces else (c :: piece) :: pieces

theorem splitOn_ne_nil (mark : Char) (s : Text) : splitOn mark s ≠ [] := by
  cases s with
  | nil => simp [splitOn]
  | cons c s =>
    simp only [splitOn]
    split
    · simp
    · split <;> simp

theorem splitOn_eq (mark : Char) (s : Text) : splitOn mark s = List.splitOn mark s := by
  rw [List.splitOn]
  induction s with
  | nil => rfl
  | cons c s ih =>
    obtain ⟨first, pieces, split⟩ := List.exists_cons_of_ne_nil (splitOn_ne_nil mark s)
    rw [List.splitOnP_cons_eq_if_modifyHead, ← ih, splitOn, split]
    simp

theorem splitOn_append_mark (mark : Char) (s t : Text) :
    splitOn mark (s ++ mark :: t) = splitOn mark s ++ splitOn mark t := by
  simp only [splitOn_eq]
  exact List.splitOn_append_cons_self s t

theorem not_mem_of_mem_splitOn {mark : Char} {s : Text} :
    ∀ piece ∈ splitOn mark s, mark ∉ piece := by
  induction s with
  | nil => simp [splitOn]
  | cons c s ih =>
    obtain ⟨first, pieces, split⟩ := List.exists_cons_of_ne_nil (splitOn_ne_nil mark s)
    rw [split, List.forall_mem_cons] at ih
    simp only [splitOn, split]
    split
    · simpa using ih
    · next other => simpa [Ne.symm other] using ih

theorem splitOn_of_not_mem {mark : Char} {piece : Text} (absent : mark ∉ piece) :
    splitOn mark piece = [piece] := by
  induction piece with
  | nil => rfl
  | cons c piece ih =>
    simp only [List.mem_cons, not_or] at absent
    simp [splitOn, ih absent.2, Ne.symm absent.1]

theorem splitOn_append {mark : Char} {piece : Text} (absent : mark ∉ piece) (rest : Text) :
    splitOn mark (piece ++ mark :: rest) = piece :: splitOn mark rest := by
  rw [splitOn_append_mark, splitOn_of_not_mem absent, List.singleton_append]

def splitOnce? (mark : Char) : Text → Option (Text × Text)
  | [] => none
  | c :: rest =>
    if c = mark then some ([], rest)
    else (splitOnce? mark rest).map fun (before, behind) => (c :: before, behind)

theorem splitOnce?_eq_some {mark : Char} {text before behind : Text} :
    splitOnce? mark text = some (before, behind) ↔
      text = before ++ mark :: behind ∧ mark ∉ before := by
  constructor
  · intro found
    induction text generalizing before with
    | nil => contradiction
    | cons c text ih =>
      by_cases here : c = mark
      · simp only [splitOnce?, here, if_true, Option.some.injEq, Prod.mk.injEq] at found
        obtain ⟨rfl, rfl⟩ := found
        simp [here]
      · simp only [splitOnce?, here, if_false] at found
        obtain ⟨⟨before, behind⟩, later, same⟩ := Option.map_eq_some_iff.mp found
        cases same
        obtain ⟨rfl, absent⟩ := ih later
        simpa [absent] using Ne.symm here
  · rintro ⟨rfl, absent⟩
    induction before with
    | nil => simp [splitOnce?]
    | cons c before ih =>
      simp only [List.mem_cons, not_or] at absent
      simp [splitOnce?, Ne.symm absent.1, ih absent.2]

theorem splitOnce?_eq_none {mark : Char} {text : Text} :
    splitOnce? mark text = none ↔ mark ∉ text := by
  induction text with
  | nil => simp [splitOnce?]
  | cons c text ih =>
    by_cases here : c = mark
    · simp [splitOnce?, here]
    · simp [splitOnce?, here, Ne.symm here, ih]

/-- A line without the carriage return that may end it. -/
def chompReturn (line : Text) : Text :=
  if line.getLast? = some '\r' then line.dropLast else line

/-- The lines of a text; what follows the last line feed is a line unless it is empty. -/
def lines (s : Text) : List Text :=
  let pieces := splitOn '\n' s
  let ended := pieces.dropLast.map chompReturn
  match pieces.getLast? with
  | some [] => ended
  | some last => ended ++ [chompReturn last]
  | none => ended

end Highlighting.Text
