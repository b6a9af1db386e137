import Highlighting.Proofs.Backtracking
import Highlighting.Proofs.Scan

/-! Where the match of a program starts. The start can be moved by `keepOut` alone, and only onward
unless that stands in a look-behind. So a match is always a part of the text that ends onward of
the place of the search, but it may start before it. -/
namespace Highlighting

namespace Cursor

theorem advanceOver?_onward {part : Text} {c d : Cursor}
    (moved : Pattern.Program.advanceOver? part c = some d) : c.Onward d := by
  induction part generalizing c with
  | nil => cases moved; exact .refl _
  | cons ch part ih =>
    simp only [Pattern.Program.advanceOver?] at moved
    split at moved
    · next step =>
      split at moved
      · exact (next?_onward step).trans (ih moved)
      · contradiction
    · contradiction

end Cursor

namespace Pattern.Program

/-- Whether the start of the match is moved in a look-behind; `inside` says that the program
stands in one. What is moved where nothing may match is moved in vain. -/
def keepsOut (inside : Bool) : Program → Bool
  | nothing | regular _ | notAround .. | backref _ | groupSet _ | searchStart => false
  | keepOut => inside
  | group _ body | optional body _ | many body _ _ _ _ | atomic body => body.keepsOut inside
  | seq first second | alt first second => first.keepsOut inside || second.keepsOut inside
  | around back body => body.keepsOut (inside || 0 < back)
  | cond condition yes no =>
    condition.keepsOut inside || yes.keepsOut inside || no.keepsOut inside

/-- A program that would not move the start in a look-behind does not move it outside either. -/
theorem keepsOut_false {p : Program} (inside : Bool) (free : p.keepsOut true = false) :
    p.keepsOut inside = false := by
  cases inside with
  | true => exact free
  | false =>
    induction p with
    | nothing | regular | notAround | backref | groupSet | searchStart | keepOut => rfl
    | group _ body ih | optional body _ ih | many body _ _ _ _ ih | atomic body ih => exact ih free
    | seq first second ih ih' | alt first second ih ih' =>
      simp only [keepsOut,Bool.or_eq_false_iff] at free ⊢
      exact ⟨ih free.1,ih' free.2⟩
    | around back body ih =>
      simp only [keepsOut,Bool.true_or,Bool.false_or] at free ⊢
      cases back with
      | zero => exact ih free
      | succ back => exact free
    | cond condition yes no ih ih' ih'' =>
      simp only [keepsOut,Bool.or_eq_false_iff] at free ⊢
      exact ⟨⟨ih free.1.1,ih' free.1.2⟩,ih'' free.2⟩

namespace Leads

variable {g : Ground} {p : Program} {r u : Match}

theorem onward (leads : Leads g p r u) : r.place.Onward u.place := by
  induction leads with
  | nothing | never | manyDone | notAround | groupSet | keepOut | searchStart => exact .refl _
  | @regular e r u found => exact (Regular.matchFrom?_onward found :)
  | group _ ih | altFirst _ ih | altSecond _ ih | once _ ih | atomic _ ih | condNo _ ih => exact ih
  | seq _ _ ih ih' | manyMore _ _ _ ih ih' | condYes _ _ ih ih' => exact ih.trans ih'
  | around => exact .refl _
  | backref _ _ _ moved => exact Cursor.advanceOver?_onward moved

theorem isBoundary_start (leads : Leads g p r u) (boundary : r.place.text.IsBoundary r.start) :
    r.place.text.IsBoundary u.start := by
  induction leads with
  | nothing | regular | never | manyDone | notAround | backref | groupSet | searchStart =>
    exact boundary
  | group _ ih | altFirst _ ih | altSecond _ ih | once _ ih | atomic _ ih | condNo _ ih =>
    exact ih boundary
  | seq first _ ih ih' | condYes first _ ih ih' | manyMore _ first _ ih ih' =>
    have same := first.onward.text
    rw [← same]
    exact ih' (by rw [same]; exact ih boundary)
  | @around back body r u place step leads ih =>
    have same := Cursor.back?_text step
    simp only [same] at ih
    exact ih boundary
  | @keepOut r => exact r.place.isBoundary

/-- A program that cannot move the start at all leaves it. -/
theorem start_eq (leads : Leads g p r u) (free : p.keepsOut true = false) : u.start = r.start := by
  induction leads with
  | nothing | regular | never | manyDone | notAround | backref | groupSet | searchStart => rfl
  | group _ ih | altFirst _ ih | altSecond _ ih | once _ ih | atomic _ ih | condNo _ ih
  | around _ _ ih => simp_all [keepsOut]
  | seq _ _ ih ih' | condYes _ _ ih ih' =>
    simp only [keepsOut,Bool.or_eq_false_iff] at free
    simp_all
  | manyMore _ _ _ ih ih' => exact (ih' free).trans (ih free)
  | keepOut => contradiction

/-- A program that does not move the start in a look-behind does not move it in front of any
offset from which the match goes on. -/
theorem start_ge {origin : Nat} (leads : Leads g p r u) (free : p.keepsOut false = false)
    (place : origin ≤ r.offset) (start : origin ≤ r.start) : origin ≤ u.start := by
  induction leads with
  | nothing | regular | never | manyDone | notAround | backref | groupSet | searchStart =>
    exact start
  | keepOut => exact place
  | group _ ih | once _ ih | atomic _ ih => exact ih free place start
  | altFirst _ ih | altSecond _ ih | condNo _ ih =>
    simp only [keepsOut,Bool.or_eq_false_iff] at free
    exact ih (by simp [free]) place start
  | seq first _ ih ih' | condYes first _ ih ih' =>
    simp only [keepsOut,Bool.or_eq_false_iff] at free
    exact ih' (by simp [free]) (Nat.le_trans place first.onward.offset)
      (ih (by simp [free]) place start)
  | manyMore _ first _ ih ih' =>
    exact ih' free (Nat.le_trans place first.onward.offset) (ih free place start)
  | @around back body r u reached step leads ih =>
    -- Only a look-behind begins before the offset, and its body does not move the start at all.
    cases back with
    | zero => cases step; exact ih free place start
    | succ back => exact (leads.start_eq free).symm ▸ start

end Leads

/-- The match of a search is a part of the text that ends onward of the place of the search. -/
theorem search_fits {p : Program} {place : Cursor} {m : Span}
    (found : p.search place = .ok (some m)) : place.offset ≤ m.stop ∧ m.Fits place.text := by
  obtain ⟨first,u,onward,leads,rfl⟩ := searchFrom_found found
  have ahead := onward.trans leads.onward
  have start := leads.isBoundary_start first.isBoundary
  have stop := u.place.isBoundary
  rw [leads.onward.text] at stop
  simp only [State.initial,onward.text] at start stop
  refine ⟨ahead.offset,Nat.min_le_right _ _,?_,stop⟩
  by_cases le : u.start ≤ u.offset
  · rw [Nat.min_eq_left le]
    exact start
  · rw [Nat.min_eq_right (Nat.le_of_not_le le)]
    exact stop

/-- Nor does it start before that place, if the start is not moved in a look-behind. -/
theorem search_start {p : Program} {place : Cursor} {m : Span}
    (found : p.search place = .ok (some m)) (free : p.keepsOut false = false) : place.offset ≤ m.start := by
  obtain ⟨first,u,onward,leads,rfl⟩ := searchFrom_found found
  have start := leads.start_ge free onward.offset onward.offset
  exact Nat.le_min.mpr ⟨start,(onward.trans leads.onward).offset⟩

end Pattern.Program

end Highlighting
