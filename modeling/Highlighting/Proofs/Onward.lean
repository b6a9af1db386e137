import Highlighting.Pattern.Regular.Run
import Highlighting.Proofs.Boundary

/-! Places onward of a place, in the same text. What every step of a regular expression keeps, a
run keeps whatever the choices made; so a regular expression is matched onward only. -/
namespace Highlighting

namespace Cursor

/-- The place `d` lies in the text of `c`, at its offset or behind. -/
structure Onward (c d : Cursor) : Prop where
  text : d.text = c.text
  offset : c.offset ≤ d.offset

theorem Onward.refl (c : Cursor) : c.Onward c := ⟨rfl,Nat.le_refl _⟩

theorem Onward.trans {c d e : Cursor} (first : c.Onward d) (second : d.Onward e) : c.Onward e :=
  ⟨second.text.trans first.text,Nat.le_trans first.offset second.offset⟩

theorem next?_onward {c d : Cursor} {ch : Char} (step : c.next? = some (ch,d)) : c.Onward d := by
  obtain ⟨before,after,offset,size⟩ := c
  cases after with
  | nil => simp [next?] at step
  | cons first after =>
    simp only [next?,Option.some.injEq,Prod.mk.injEq] at step
    obtain ⟨rfl,rfl⟩ := step
    exact ⟨by simp [text],Nat.le_add_left _ _⟩

theorem previous?_text {c d : Cursor} (step : c.previous? = some d) : d.text = c.text := by
  obtain ⟨before,after,offset,size⟩ := c
  cases before with
  | nil => simp [previous?] at step
  | cons first before =>
    simp only [previous?,Option.some.injEq] at step
    subst step
    simp [text]

theorem back?_text {count : Nat} {c d : Cursor} (step : back? count c = some d) :
    d.text = c.text := by
  induction count generalizing c with
  | zero => cases step; rfl
  | succ count ih =>
    simp only [back?,Option.bind_eq_some_iff] at step
    obtain ⟨middle,first,rest⟩ := step
    exact (ih rest).trans (previous?_text first)

theorem at?_eq_some {source : Text} {offset : Nat} {c : Cursor}
    (found : at? source offset = some c) : c.text = source ∧ c.offset = offset := by
  rw [at?_eq,Option.map_eq_some_iff] at found
  obtain ⟨⟨before,after⟩,cutting,rfl⟩ := found
  obtain ⟨rfl,size⟩ := (Text.cut_eq_some_iff _ _ _ _).mp cutting
  exact ⟨by simp [text],by simpa using size⟩

end Cursor

namespace Pattern

namespace Next

/-- All that is left to do leads from matches with one property to matches with another. -/
def Keeps (before after : Reached → Prop) (next : Next) : Prop :=
  ∀ r seen u, before r → (next r seen).1 = some u → after u

variable {before after : Reached → Prop} {first second : Next}

theorem accept_keeps : accept.Keeps after after := by
  intro r seen u holds found
  cases found
  exact holds

theorem fail_keeps : fail.Keeps before after := by
  intro r seen u _ found
  contradiction

theorem orElse_keeps (keeps : first.Keeps before after) (keeps' : second.Keeps before after) :
    (orElse first second).Keeps before after := by
  intro r seen u holds found
  have here := keeps r seen
  rcases answer : first r seen with ⟨_ | v,later⟩
  · simp only [orElse,answer] at found
    exact keeps' r later u holds found
  · simp only [orElse,answer] at found
    exact here u holds (by rw [answer]; exact found)

end Next

namespace Grid

variable {before after : Reached → Prop}

theorem choose_keeps (g : Grid) (point : Nat) (greedy : Bool) {more leave : Next}
    (keeps : more.Keeps before after) (keeps' : leave.Keeps before after) :
    (g.choose point greedy more leave).Keeps before after := by
  intro r seen u holds found
  simp only [choose] at found
  split at found
  · contradiction
  · cases greedy with
    | true => exact Next.orElse_keeps keeps keeps' r _ u holds found
    | false => exact Next.orElse_keeps keeps' keeps r _ u holds found

theorem copies_keeps {part : Nat → Next → Next} {next : Next}
    (each : ∀ point next, next.Keeps before after → (part point next).Keeps before after)
    (keeps : next.Keeps before after) (size count point : Nat) :
    (copies part size count point next).Keeps before after := by
  induction count generalizing point with
  | zero => exact keeps
  | succ count ih => exact each point _ (ih (point + size))

theorem upTo_keeps (g : Grid) {part : Nat → Next → Next} {next : Next}
    (each : ∀ point next, next.Keeps before after → (part point next).Keeps before after)
    (keeps : next.Keeps before after) (size : Nat) (greedy : Bool) (count point : Nat) :
    (g.upTo part size greedy count point next).Keeps before after := by
  induction count generalizing point with
  | zero => exact keeps
  | succ count ih =>
    exact g.choose_keeps point greedy (each _ _ (ih (point + 1 + size))) keeps

theorem again_keeps (g : Grid) {part : Next → Next} {next : Next}
    (each : ∀ next, next.Keeps before after → (part next).Keeps before after)
    (keeps : next.Keeps before after) (point : Nat) (greedy : Bool) (fuel : Nat) :
    (g.again part point greedy next fuel).Keeps before after := by
  induction fuel with
  | zero => exact Next.fail_keeps
  | succ fuel ih => exact g.choose_keeps point greedy (each _ ih) keeps

end Grid

namespace Regular

open Next

/-- A property that every step of a run keeps; it may tell which groups are open. -/
structure Kept (groups : List Nat) (P : List Nat → Reached → Prop) : Prop where
  reads : ∀ {opened r ch place}, P opened r → r.place.next? = some (ch,place) →
    P opened { r with place }
  begins : ∀ {opened r i}, i ∈ groups → P opened r → P (i :: opened) (r.setSlot (2 * i))
  ends : ∀ {opened r i}, i ∈ groups → P (i :: opened) r → P opened (r.setSlot (2 * i + 1))

theorem run_keeps {groups : List Nat} {P : List Nat → Reached → Prop} {after : Reached → Prop}
    (kept : Kept groups P) (g : Grid) (e : Regular) (among : e.groups ⊆ groups) (point : Nat)
    (opened : List Nat) {next : Next} (keeps : next.Keeps (P opened) after) :
    (e.run g point next).Keeps (P opened) after := by
  induction e generalizing opened point next with
  | empty => exact keeps
  | one set =>
    intro r seen u holds found
    simp only [run] at found
    split at found
    · next step =>
      split at found
      · exact keeps _ _ _ (kept.reads holds step) found
      · contradiction
    · contradiction
  | look condition =>
    intro r seen u holds found
    simp only [run] at found
    split at found
    · exact keeps r seen u holds found
    · contradiction
  | group index body ih =>
    intro r seen u holds found
    have member : index ∈ groups := among List.mem_cons_self
    have closing : Keeps (P (index :: opened)) after
        fun r seen => next (r.setSlot (2 * index + 1)) seen :=
      fun r seen u holds found => keeps _ seen u (kept.ends member holds) found
    exact ih (List.subset_of_cons_subset among) point _ closing _ seen u
      (kept.begins member holds) found
  | seq first second ih ih' =>
    obtain ⟨among,among'⟩ := List.append_subset.mp among
    exact ih among point _ (ih' among' _ _ keeps)
  | alt first second ih ih' =>
    obtain ⟨among,among'⟩ := List.append_subset.mp among
    exact g.choose_keeps point true (ih among _ _ keeps) (ih' among' _ _ keeps)
  | many body least most greedy ih =>
    have each : ∀ point next, next.Keeps (P opened) after →
        (body.run g point next).Keeps (P opened) after :=
      fun point next keeps => ih among point opened keeps
    cases most with
    | some most =>
      exact Grid.copies_keeps each (g.upTo_keeps each keeps _ _ _ _) _ _ _
    | none =>
      have more := g.again_keeps (each (point + 2)) keeps point greedy g.places
      cases least with
      | succ least => exact Grid.copies_keeps each (each _ _ more) _ _ _
      | zero =>
        intro r seen u holds found
        simp only [run] at found
        split at found
        · exact g.choose_keeps _ _ (each _ _ more) keeps r seen u holds found
        · exact more r seen u holds found

theorem kept_onward (groups : List Nat) (c : Cursor) :
    Kept groups fun _ r => c.Onward r.place :=
  ⟨fun onward step => onward.trans (Cursor.next?_onward step),fun _ onward => onward,
    fun _ onward => onward⟩

theorem run_onward {g : Grid} {e : Regular} {point : Nat} {r u : Reached} {seen : Seen}
    (found : (e.run g point .accept r seen).1 = some u) : r.place.Onward u.place :=
  run_keeps (kept_onward e.groups r.place) g e (List.Subset.refl _) point [] accept_keeps r seen u
    (.refl _) found

theorem matchFrom?_onward {e : Regular} {places : Nat} {r u : Reached}
    (found : e.matchFrom? places r = some u) : r.place.Onward u.place :=
  run_onward found

theorem searchFrom?_eq_some {e : Regular} {g : Grid} {count : Nat} {place : Cursor} {seen : Seen}
    {m : Span} (found : e.searchFrom? g count place seen = some m) :
    ∃ first last : Cursor, place.Onward first ∧ first.Onward last ∧
      m = ⟨first.offset,last.offset⟩ := by
  induction count generalizing place seen with
  | zero => contradiction
  | succ count ih =>
    simp only [searchFrom?] at found
    split at found
    · next r later answer =>
      cases found
      exact ⟨place,r.place,.refl _,run_onward (by rw [answer]),rfl⟩
    · split at found
      · next step =>
        obtain ⟨first,last,toFirst,toLast,same⟩ := ih found
        exact ⟨first,last,(Cursor.next?_onward step).trans toFirst,toLast,same⟩
      · contradiction

theorem search?_eq_some {e : Regular} {place : Cursor} {m : Span}
    (found : e.search? place = some m) :
    ∃ first last : Cursor, place.Onward first ∧ first.Onward last ∧
      m = ⟨first.offset,last.offset⟩ :=
  searchFrom?_eq_some found

end Regular

end Pattern

end Highlighting
