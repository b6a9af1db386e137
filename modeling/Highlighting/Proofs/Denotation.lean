import Highlighting.Proofs.ProgramSearch
import Highlighting.Proofs.Totality

/-! Patterns that denote a property of parts of texts, and all their matches in a text. -/
namespace Highlighting.Pattern

open Text (Property Occurs)

/-- What a pattern matches is the parts of texts with a property. -/
def Denotes (pattern : Pattern) (part : Property) : Prop :=
  match pattern.matcher with
  | .regular e => e.Denotes part
  | .program p => p.isFree ∧ p.Denotes part

/-- Whether the search from an offset on reaches a limit before it has an answer. Only programs have
limits. -/
def givesUp (pattern : Pattern) (text : Text) (offset : Nat) : Bool :=
  match pattern.matcher with
  | .regular _ => false
  | .program p => (Cursor.at? text offset).any p.givesUp

/-- No search that the scan of a text makes gives up. -/
def Lasts (pattern : Pattern) (text : Text) : Prop :=
  ∀ offset, Scan.Visits pattern.search text offset → pattern.givesUp text offset = false

variable {pattern pattern' : Pattern} {part : Property} {text : Text} {offset : Nat}

theorem search_of_givesUp (up : pattern.givesUp text offset) : pattern.search text offset = .ok none := by
  rw [givesUp] at up
  rw [search]
  cases isMatcher : pattern.matcher with
  | regular e => simp [isMatcher] at up
  | program p =>
    rw [isMatcher] at up
    cases found : Cursor.at? text offset with
    | none => rfl
    | some place => exact Program.search_of_givesUp (by simpa [found] using up)

theorem lasts_of_forall (none : ∀ offset ≤ text.bytes, pattern.givesUp text offset = false) :
    pattern.Lasts text :=
  fun offset visits => none offset visits.inside

theorem lasts_of_places {p : Program} (isProgram : pattern.matcher = .program p)
    (never : ∀ place : Cursor, place.after.length ≤ text.length → p.givesUp place = false) :
    pattern.Lasts text := by
  intro offset _
  rw [givesUp,isProgram]
  cases found : Cursor.at? text offset with
  | none => rfl
  | some place =>
    obtain ⟨rfl,_⟩ := Cursor.at?_eq_some found
    exact never place (by simp [Cursor.text])

theorem answersFirst_of_denotes (denotes : pattern.Denotes part) (boundary : text.IsBoundary offset)
    (lasts : pattern.givesUp text offset = false) :
    pattern.search.AnswersFirst text (Occurs part text) offset := by
  obtain ⟨before,after,rfl,rfl⟩ := boundary
  rw [givesUp,Cursor.at?_between] at lasts
  rw [Denotes] at denotes
  have here : pattern.search (before ++ after) before.bytes =
      pattern.matcher.search (.between before after) := by rw [search,Cursor.at?_between]
  cases isMatcher : pattern.matcher with
  | regular e =>
    rw [isMatcher] at here denotes
    exact Search.answersFirst_of_firstPart here (Regular.search?_firstPart denotes _)
  | program p =>
    rw [isMatcher] at here denotes lasts
    obtain ⟨answer,answers,first⟩ :=
      Program.search_firstPart denotes.1 denotes.2 (by simpa using lasts)
    exact Search.answersFirst_of_firstPart (here.trans answers) first

/-- All matches of a pattern that denotes a property, given a set of parts that covers all parts
with the property. -/
theorem findAll_of_denotes (denotes : pattern.Denotes part) (unique : part.Unique)
    (lasts : pattern.Lasts text) {taken : Span → Prop} (covers : Covers (Occurs part text) taken) :
    ∃ spans, pattern.findAll text = .ok spans ∧ (∀ m, m ∈ spans ↔ taken m) ∧
      spans.Pairwise fun a b => a.stop ≤ b.start :=
  Scan.findAll_of_covers pattern.search_sound covers
    (fun _ _ occurs occurs' => occurs.unique unique occurs') (fun _ occurs => occurs.stop_le)
    fun offset visits => answersFirst_of_denotes denotes (visits.boundary pattern.search_sound)
      (lasts offset visits)

/-- Patterns that denote one property, which holds of one part at a place, are searched for alike
where neither gives up. -/
theorem search_eq_of_denotes (denotes : pattern.Denotes part) (denotes' : pattern'.Denotes part)
    (unique : part.Unique) (lasts : pattern.givesUp text offset = false)
    (lasts' : pattern'.givesUp text offset = false) :
    pattern.search text offset = pattern'.search text offset := by
  by_cases boundary : text.IsBoundary offset
  · exact (answersFirst_of_denotes denotes boundary lasts).eq
      (answersFirst_of_denotes denotes' boundary lasts')
      fun h h' occurs occurs' => occurs.unique unique occurs'
  · have nowhere : Cursor.at? text offset = none := by
      cases found : Cursor.at? text offset with
      | none => rfl
      | some c =>
        obtain ⟨rfl,rfl⟩ := Cursor.at?_eq_some found
        exact absurd c.isBoundary boundary
    rw [search,search,nowhere]

end Highlighting.Pattern
