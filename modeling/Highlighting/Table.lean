import Highlighting.Text.Basic

/-! Tables: values under keys, each key at most once. -/
namespace Highlighting

abbrev Table (α : Type) := List (Text × α)

namespace Table

variable {α : Type}

def get? : Table α → Text → Option α
  | [], _ => none
  | (k, v) :: rest, key => if k = key then some v else get? rest key

def has (t : Table α) (key : Text) : Bool := (get? t key).isSome

/-- Gives a key a value, in the place of the old one or at the end. -/
def put : Table α → Text → α → Table α
  | [], key, value => [(key, value)]
  | (k, v) :: rest, key, value =>
    if k = key then (k, value) :: rest else (k, v) :: put rest key value

theorem get?_put (t : Table α) (key other : Text) (value : α) :
    get? (put t key value) other = if key = other then some value else get? t other := by
  induction t with
  | nil => rfl
  | cons entry rest ih =>
    obtain ⟨k, v⟩ := entry
    by_cases hk : k = key
    · subst hk
      by_cases h : k = other <;> simp [get?, put, h]
    · by_cases h : k = other
      · subst h
        simp [get?, put, hk, Ne.symm hk]
      · simp [get?, put, hk, h, ih]

/-- No two values stand under one key. -/
def Keyed (t : Table α) : Prop := (t.map (·.1)).Nodup

theorem Keyed.filter {t : Table α} (keyed : Keyed t) (keep : Text × α → Bool) :
    Keyed (t.filter keep) := keyed.sublist (List.filter_sublist.map _)

theorem Keyed.perm {s t : Table α} (keyed : Keyed t) (same : s.Perm t) : Keyed s :=
  (same.map _).nodup_iff.mpr keyed

theorem Keyed.get?_eq_some_iff {t : Table α} (keyed : Keyed t) {key : Text} {value : α} :
    get? t key = some value ↔ (key, value) ∈ t := by
  induction t with
  | nil => simp [get?]
  | cons entry rest ih =>
    obtain ⟨k, v⟩ := entry
    obtain ⟨fresh, keyed⟩ := List.nodup_cons.mp keyed
    by_cases h : k = key
    · subst h
      have other (w : α) : (k, w) ∉ rest := fun member =>
        fresh (List.mem_map.mpr ⟨(k, w), member, rfl⟩)
      simp [get?, other, eq_comm]
    · simp [get?, h, Ne.symm h, ih keyed]

/-- But for the place of the new value, the values under other keys stay and the new one is
added. -/
theorem Keyed.put_perm {t : Table α} (keyed : Keyed t) (key : Text) (value : α) :
    (put t key value).Perm (t.filter (·.1 ≠ key) ++ [(key, value)]) := by
  induction t with
  | nil => exact .refl _
  | cons entry rest ih =>
    obtain ⟨k, v⟩ := entry
    obtain ⟨fresh, keyed⟩ := List.nodup_cons.mp keyed
    by_cases h : k = key
    · subst h
      have others : rest.filter (·.1 ≠ k) = rest := by
        refine List.filter_eq_self.mpr fun other member => decide_eq_true fun same => fresh ?_
        exact List.mem_map.mpr ⟨other, member, same⟩
      rw [List.filter_cons_of_neg (by simp), others]
      simpa [put] using (List.perm_append_singleton (k, value) rest).symm
    · simpa [put, h] using ih keyed

theorem Keyed.mem_put {t : Table α} (keyed : Keyed t) {key : Text} {value : α}
    {entry : Text × α} :
    entry ∈ put t key value ↔ entry ∈ t ∧ entry.1 ≠ key ∨ entry = (key, value) := by
  simp [(keyed.put_perm key value).mem_iff]

theorem Keyed.put {t : Table α} (keyed : Keyed t) (key : Text) (value : α) :
    Keyed (put t key value) := by
  refine Keyed.perm ?_ (keyed.put_perm key value)
  simp only [Keyed, List.map_append, List.nodup_append]
  refine ⟨keyed.filter _, by simp, ?_⟩
  simp +contextual

end Table

end Highlighting
