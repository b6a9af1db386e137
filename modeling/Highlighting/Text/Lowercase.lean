import Highlighting.Text.Basic
import Highlighting.Unicode.CaseMap
import Highlighting.Unicode.Classes

/-!
Lower case text.

Characters are lowered one by one, with two exceptions: a capital I with a dot becomes two
characters, and a capital sigma at the end of a word becomes a final sigma.
-/
namespace Highlighting.Text

open Highlighting.Unicode

/-- Whether the first character that is not ignored where case matters has case. -/
def reachesCased : Text → Bool
  | [] => false
  | c :: rest =>
    if isCaseIgnorable c then reachesCased rest
    else isCased c

/-- The lower case form of a character between the texts `before`, read backwards, and
`behind`. -/
def lowerAt (before : Text) (c : Char) (behind : Text) : Text :=
  if c = 'Σ' then [if reachesCased before && !reachesCased behind then 'ς' else 'σ']
  else if c = 'İ' then ['i', '\u0307']
  else [lowered c]

def lowerFrom (before : Text) : Text → Text
  | [] => []
  | c :: rest => lowerAt before c rest ++ lowerFrom (c :: before) rest

def lower (s : Text) : Text := lowerFrom [] s

theorem lowerAt_ne_nil (before : Text) (c : Char) (behind : Text) :
    lowerAt before c behind ≠ [] := by
  rw [lowerAt]
  split
  · exact List.cons_ne_nil _ _
  · split <;> exact List.cons_ne_nil _ _

theorem lower_eq_nil_iff {s : Text} : lower s = [] ↔ s = [] := by
  cases s with
  | nil => exact iff_of_true rfl rfl
  | cons c rest =>
    rw [lower, lowerFrom, List.append_eq_nil_iff]
    simp [lowerAt_ne_nil]

theorem mem_lowerAt_iff {mark : Char} (visible : 0 < mark.toNat) (low : mark.toNat < 0x41)
    (before : Text) (c : Char) (behind : Text) : mark ∈ lowerAt before c behind ↔ mark = c := by
  have other {d : Char} (high : 0x41 ≤ d.toNat) : mark ≠ d := by rintro rfl; omega
  rw [lowerAt]
  split
  · next sigma =>
    subst sigma
    rw [List.mem_singleton]
    split <;> exact iff_of_false (other (by decide)) (other (by decide))
  split
  · next dotted =>
    subst dotted
    rw [List.mem_cons, List.mem_singleton]
    exact iff_of_false (not_or.mpr ⟨other (by decide), other (by decide)⟩) (other (by decide))
  · rw [List.mem_singleton, eq_comm, lowered_eq_iff visible low, eq_comm]

theorem mem_lower_iff {mark : Char} (visible : 0 < mark.toNat) (low : mark.toNat < 0x41)
    {s : Text} : mark ∈ lower s ↔ mark ∈ s := by
  have within (before : Text) : mark ∈ lowerFrom before s ↔ mark ∈ s := by
    induction s generalizing before with
    | nil => rfl
    | cons c rest ih =>
      rw [lowerFrom, List.mem_append, mem_lowerAt_iff visible low, ih, List.mem_cons]
  exact within []

theorem length_lowerAt (before : Text) {c : Char} (behind : Text) (plain : c ≠ 'İ') :
    (lowerAt before c behind).length = 1 := by
  rw [lowerAt, if_neg plain]
  split <;> rfl

theorem length_lowerFrom (before : Text) {s : Text} (plain : 'İ' ∉ s) :
    (lowerFrom before s).length = s.length := by
  induction s generalizing before with
  | nil => rfl
  | cons c rest ih =>
    obtain ⟨other, plain⟩ := not_or.mp (mt List.mem_cons.mpr plain)
    rw [lowerFrom, List.length_append, length_lowerAt _ _ (Ne.symm other), ih _ plain,
      List.length_cons, Nat.add_comm]

/-- Only a capital I with a dot makes a text longer. -/
theorem length_lower {s : Text} (plain : 'İ' ∉ s) : (lower s).length = s.length :=
  length_lowerFrom [] plain

theorem lower_ne_of_length {s t : Text} (plain : 'İ' ∉ s) (plain' : 'İ' ∉ t)
    (lengths : s.length ≠ t.length) : lower s ≠ lower t := by
  refine ne_of_apply_ne List.length ?_
  rwa [length_lower plain, length_lower plain']

theorem lowerAt_ascii (before : Text) {c : Char} (behind : Text) (ascii : c.toNat < 0x80) :
    lowerAt before c behind = [c.toLower] := by
  have sigma : c ≠ 'Σ' := by rintro rfl; exact absurd ascii (by decide)
  have dotted : c ≠ 'İ' := by rintro rfl; exact absurd ascii (by decide)
  rw [lowerAt, if_neg sigma, if_neg dotted, lowered_ascii ascii]

theorem lowerFrom_ascii (before : Text) {s : Text} (ascii : ∀ c ∈ s, c.toNat < 0x80) :
    lowerFrom before s = s.map Char.toLower := by
  induction s generalizing before with
  | nil => rfl
  | cons c rest ih =>
    obtain ⟨first, rest⟩ := List.forall_mem_cons.mp ascii
    rw [lowerFrom, lowerAt_ascii _ _ first, ih _ rest, List.singleton_append, List.map_cons]

theorem lower_ascii {s : Text} (ascii : s.all (·.toNat < 0x80) = true) :
    lower s = s.map Char.toLower := lowerFrom_ascii [] (by simpa using ascii)

def isSmall (c : Char) : Bool := c.toNat < 0x80 && !(0x41 ≤ c.toNat && c.toNat ≤ 0x5a)

theorem lower_small {s : Text} (small : s.all isSmall = true) : lower s = s := by
  simp only [isSmall, List.all_eq_true, Bool.and_eq_true, Bool.not_eq_true', Bool.and_eq_false_imp,
    decide_eq_true_eq, decide_eq_false_iff_not] at small
  rw [lower_ascii (by simpa using fun c member => (small c member).1)]
  refine (List.map_congr_left fun c member => ?_).trans (List.map_id s)
  refine Char.toNat_inj.mp ?_
  rw [toNat_toLower, if_neg (not_and.mpr (small c member).2)]
  rfl

end Highlighting.Text
