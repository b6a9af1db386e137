import Mathlib.Data.List.Basic
import Highlighting.Proofs.Boundary

/-! The order of texts is the order of the bytes of their UTF-8 forms. Of two characters the one with
the smaller number has the smaller byte at the first place where the forms differ: forms of one
length are made of the digits of the number, and a longer form begins with a greater byte. -/
namespace Highlighting.Text

def utf8 (text : Text) : List UInt8 := text.flatMap String.utf8EncodeChar

@[simp] theorem utf8_nil : utf8 [] = [] := rfl

@[simp] theorem utf8_cons (c : Char) (text : Text) :
    utf8 (c :: text) = String.utf8EncodeChar c ++ utf8 text := by simp [utf8]

/-- Of two numbers, the first digit that differs decides. -/
theorem digits_lt {m n : Nat} (less : m < n) :
    m / 262144 < n / 262144 ∨ m / 262144 = n / 262144 ∧
      (m / 4096 % 64 < n / 4096 % 64 ∨ m / 4096 % 64 = n / 4096 % 64 ∧
        (m / 64 % 64 < n / 64 % 64 ∨ m / 64 % 64 = n / 64 % 64 ∧ m % 64 < n % 64)) := by
  have last : m / 64 < n / 64 ∨ m / 64 = n / 64 ∧ m % 64 < n % 64 := by omega
  have third : m / 64 ≤ n / 64 → m / 4096 < n / 4096 ∨
      m / 4096 = n / 4096 ∧ (m / 64 % 64 < n / 64 % 64 ∨ m / 64 = n / 64) := by omega
  have second : m / 4096 ≤ n / 4096 → m / 262144 < n / 262144 ∨
      m / 262144 = n / 262144 ∧ (m / 4096 % 64 < n / 4096 % 64 ∨ m / 4096 = n / 4096) := by omega
  omega

/-- Two different characters decide, whatever follows them. -/
theorem utf8EncodeChar_lt {c d : Char} (less : c.toNat < d.toNat) (s t : List UInt8) :
    String.utf8EncodeChar c ++ s < String.utf8EncodeChar d ++ t := by
  have bound : d.val.toNat < 1114112 := by
    have valid : d.val.toNat.isValidChar := d.valid
    simp only [Nat.isValidChar] at valid
    omega
  have digits := digits_lt less
  simp only [Char.toNat] at less digits
  simp only [String.utf8EncodeChar]
  generalize c.val.toNat = m at *
  generalize d.val.toNat = n at *
  -- One case for each two lengths; no byte is cut off, so the digits can be compared.
  repeat' split
  all_goals
    simp only [List.cons_append,List.nil_append,List.cons_lt_cons_iff,UInt8.lt_iff_toNat_lt,
      ← UInt8.toNat_inj,UInt8.toNat_ofNat']
    simp (disch := omega) only [Nat.mod_eq_of_lt]
    omega

theorem precedes_eq_false_iff (s t : Text) : precedes s t = false ↔ t.utf8 < s.utf8 := by
  induction s generalizing t with
  | nil => simp [precedes]
  | cons c s ih =>
    cases t with
    | nil =>
      obtain ⟨first,rest,form⟩ := List.exists_cons_of_ne_nil (String.utf8EncodeChar_ne_nil (c := c))
      simp [precedes,form]
    | cons d t =>
      by_cases same : c = d
      · subst same
        simp only [precedes,if_true,ih,utf8_cons]
        generalize String.utf8EncodeChar c = form
        induction form with
        | nil => rfl
        | cons byte form ih => simpa using ih
      · simp only [precedes,if_neg same,utf8_cons,decide_eq_false_iff_not,Nat.not_lt]
        constructor
        · intro le
          have apart : d.toNat ≠ c.toNat := fun equal => same (Char.toNat_inj.mp equal).symm
          exact utf8EncodeChar_lt (by omega) _ _
        · intro less
          by_contra greater
          exact List.lt_asymm less (utf8EncodeChar_lt (by omega) _ _)

/-- Texts are in the order of their bytes. -/
theorem precedes_iff (s t : Text) : precedes s t = true ↔ s.utf8 ≤ t.utf8 := by
  rw [← List.not_lt,← precedes_eq_false_iff,Bool.not_eq_false]

theorem precedes_trans (r s t : Text) (first : precedes r s) (second : precedes s t) :
    precedes r t := by
  rw [precedes_iff] at *
  exact List.le_trans first second

theorem precedes_total (s t : Text) : (precedes s t || precedes t s) = true := by
  simp only [Bool.or_eq_true,precedes_iff]
  exact List.le_total _ _

theorem precedes_antisymm {s t : Text} (first : precedes s t) (second : precedes t s) : s = t := by
  induction s generalizing t with
  | nil => cases t <;> simp_all [precedes]
  | cons c s ih =>
    cases t with
    | nil => simp [precedes] at first
    | cons d t =>
      by_cases same : c = d
      · subst same
        simp only [precedes,if_true] at first second
        rw [ih first second]
      · simp only [precedes,if_neg same,if_neg (Ne.symm same),decide_eq_true_eq] at first second
        omega

end Highlighting.Text
