import Mathlib.Data.List.Nodup
import Highlighting.Proofs.Language

/-! Regular expressions with their bounded repetitions unrolled to rows of copies. Every choice
bears the point at which a run makes it, and no two choices share a point, so a point says all
about what is left to be matched behind its choice. -/
namespace Highlighting.Pattern

/-- A `star` has a choice before each copy, and a `plus`, with at least one copy, behind each. -/
inductive Unrolled where
  | empty
  | one (set : CharSet)
  | look (condition : Look)
  | slot (index : Nat)
  | seq (first second : Unrolled)
  | choice (point : Nat) (greedy : Bool) (more leave : Unrolled)
  | star (point : Nat) (greedy : Bool) (body : Unrolled)
  | plus (point : Nat) (greedy : Bool) (body : Unrolled)

namespace Unrolled

variable {part : Nat → Unrolled} {size : Nat}

def points : Unrolled → List Nat
  | empty | one _ | look _ | slot _ => []
  | seq first second => first.points ++ second.points
  | choice point _ more leave => point :: (more.points ++ leave.points)
  | star point _ body | plus point _ body => point :: body.points

def run (g : Grid) : Unrolled → Next → Next
  | empty, next => next
  | one set, next => fun r seen =>
    match r.place.next? with
    | some (c,place) => if set.contains c then next { r with place } seen else (none,seen)
    | none => (none,seen)
  | look condition, next => fun r seen =>
    if condition.holds r.place then next r seen else (none,seen)
  | slot index, next => fun r seen => next (r.setSlot index) seen
  | seq first second, next => first.run g (second.run g next)
  | choice point greedy more leave, next =>
    g.choose point greedy (more.run g next) (leave.run g next)
  | star point greedy body, next => g.again (body.run g) point greedy next g.places
  | plus point greedy body, next => body.run g (g.again (body.run g) point greedy next g.places)

def copies (part : Nat → Unrolled) (size : Nat) : Nat → Nat → Unrolled
  | 0, _ => empty
  | count + 1, point => seq (part point) (copies part size count (point + size))

def upTo (part : Nat → Unrolled) (size : Nat) (greedy : Bool) : Nat → Nat → Unrolled
  | 0, _ => empty
  | count + 1, point =>
    choice point greedy (seq (part (point + 1)) (upTo part size greedy count (point + 1 + size)))
      empty

theorem run_copies (g : Grid) (count point : Nat) (next : Next) :
    (copies part size count point).run g next =
      Grid.copies (fun point => (part point).run g) size count point next := by
  induction count generalizing point with
  | zero => rfl
  | succ count ih => simp only [copies,run,Grid.copies,ih]

theorem run_upTo (g : Grid) (greedy : Bool) (count point : Nat) (next : Next) :
    (upTo part size greedy count point).run g next =
      g.upTo (fun point => (part point).run g) size greedy count point next := by
  induction count generalizing point with
  | zero => rfl
  | succ count ih => simp only [upTo,run,Grid.upTo,ih]

structure Within (a : Unrolled) (low high : Nat) : Prop where
  nodup : a.points.Nodup
  bounds : ∀ p ∈ a.points, low ≤ p ∧ p < high

namespace Within

variable {a b : Unrolled} {point low middle high : Nat} {greedy : Bool}

theorem of_nil (none : a.points = []) : a.Within low high := by
  constructor <;> simp [none]

theorem weaken {low' high' : Nat} (within : a.Within low high) (le : low' ≤ low)
    (le' : high ≤ high') : a.Within low' high' := by
  refine ⟨within.nodup,fun p member => ?_⟩
  have := within.bounds p member
  omega

theorem disjoint (first : a.Within low middle) (second : b.Within middle high) :
    a.points.Disjoint b.points := by
  intro p member member'
  have := first.bounds p member
  have := second.bounds p member'
  omega

theorem seq (first : a.Within low middle) (second : b.Within middle high)
    (le : low ≤ middle) (le' : middle ≤ high) : (Unrolled.seq a b).Within low high := by
  refine ⟨List.nodup_append'.mpr ⟨first.nodup,second.nodup,first.disjoint second⟩,?_⟩
  intro p member
  rcases List.mem_append.mp member with member | member
  · exact (first.weaken (Nat.le_refl _) le').bounds p member
  · exact (second.weaken le (Nat.le_refl _)).bounds p member

/-- The points of the second part may also stand before those of the first. -/
theorem seqBack (first : a.Within middle high) (second : b.Within low middle)
    (le : low ≤ middle) (le' : middle ≤ high) : (Unrolled.seq a b).Within low high := by
  refine ⟨List.nodup_append'.mpr
    ⟨first.nodup,second.nodup,fun p member member' => second.disjoint first member' member⟩,?_⟩
  intro p member
  rcases List.mem_append.mp member with member | member
  · exact (first.weaken le (Nat.le_refl _)).bounds p member
  · exact (second.weaken (Nat.le_refl _) le').bounds p member

theorem cons {body whole : Unrolled} (same : whole.points = point :: body.points)
    (within : body.Within (point + 1) high) (lt : point < high) : whole.Within point high := by
  have notIn : point ∉ body.points := fun member => by
    have := within.bounds point member
    omega
  refine ⟨by rw [same]; exact List.nodup_cons.mpr ⟨notIn,within.nodup⟩,fun p member => ?_⟩
  rw [same] at member
  rcases List.mem_cons.mp member with rfl | member
  · omega
  · have := within.bounds p member
    omega

theorem choice (first : a.Within (point + 1) middle) (second : b.Within middle high)
    (lt : point < middle) (le : middle ≤ high) :
    (Unrolled.choice point greedy a b).Within point high :=
  cons rfl (first.seq second lt le) (by omega)

end Within

theorem copies_within (each : ∀ point, (part point).Within point (point + size))
    (count point : Nat) : (copies part size count point).Within point (point + count * size) := by
  induction count generalizing point with
  | zero => exact .of_nil rfl
  | succ count ih =>
    have rest := ih (point + size)
    rw [Nat.add_assoc,Nat.add_comm size,← Nat.succ_mul] at rest
    exact (each point).seq rest (by omega) (by rw [Nat.succ_mul]; omega)

theorem upTo_within (each : ∀ point, (part point).Within point (point + size)) (greedy : Bool)
    (count point : Nat) :
    (upTo part size greedy count point).Within point (point + count * (1 + size)) := by
  induction count generalizing point with
  | zero => exact .of_nil rfl
  | succ count ih =>
    have rest := ih (point + 1 + size)
    have whole : point + (count + 1) * (1 + size) =
        point + 1 + size + count * (1 + size) := by rw [Nat.succ_mul]; omega
    rw [whole]
    exact ((each (point + 1)).seq rest (by omega) (by omega)).choice (.of_nil rfl)
      (by omega) (by omega)

/-- Going on from `c` leads to `d`, without a choice that has been made before. -/
inductive Leads (g : Grid) (seen : Seen) : Unrolled → Cursor → Cursor → Prop where
  | empty {c} : Leads g seen .empty c c
  | one {set ch c d} : c.Reads [ch] d → set.contains ch → Leads g seen (.one set) c d
  | look {condition c} : condition.holds c → Leads g seen (.look condition) c c
  | slot {index c} : Leads g seen (.slot index) c c
  | seq {first second c d e} : Leads g seen first c d → Leads g seen second d e →
      Leads g seen (.seq first second) c e
  | more {point greedy more leave c d} : seen.has (c.offset - g.origin) point = false →
      Leads g seen more c d → Leads g seen (.choice point greedy more leave) c d
  | leave {point greedy more leave c d} : seen.has (c.offset - g.origin) point = false →
      Leads g seen leave c d → Leads g seen (.choice point greedy more leave) c d
  | starDone {point greedy body c} : seen.has (c.offset - g.origin) point = false →
      Leads g seen (.star point greedy body) c c
  | starMore {point greedy body c d e} : seen.has (c.offset - g.origin) point = false →
      Leads g seen body c d → Leads g seen (.star point greedy body) d e →
      Leads g seen (.star point greedy body) c e
  | plus {point greedy body c d e} : Leads g seen body c d →
      Leads g seen (.star point greedy body) d e → Leads g seen (.plus point greedy body) c e

theorem Leads.onward {g : Grid} {seen : Seen} {a : Unrolled} {c d : Cursor}
    (leads : Leads g seen a c d) : c.Onward d := by
  induction leads with
  | empty | look | slot | starDone => exact .refl _
  | one reads => exact reads.onward
  | more _ _ ih | leave _ _ ih => exact ih
  | seq _ _ ih ih' | starMore _ _ _ ih ih' | plus _ _ ih ih' => exact ih.trans ih'

variable {g : Grid} {seen : Seen} {a b : Unrolled} {point : Nat} {greedy : Bool} {c d : Cursor}

theorem leads_empty : Leads g seen .empty c d ↔ d = c := by
  constructor
  · rintro ⟨⟩; rfl
  · rintro rfl; exact .empty

theorem leads_seq : Leads g seen (.seq a b) c d ↔ ∃ m, Leads g seen a c m ∧ Leads g seen b m d := by
  constructor
  · intro leads
    cases leads with
    | seq first second => exact ⟨_,first,second⟩
  · rintro ⟨m,first,second⟩
    exact .seq first second

theorem leads_choice : Leads g seen (.choice point greedy a b) c d ↔
    seen.has (c.offset - g.origin) point = false ∧ (Leads g seen a c d ∨ Leads g seen b c d) := by
  constructor
  · intro leads
    cases leads with
    | more isNew leads => exact ⟨isNew,.inl leads⟩
    | leave isNew leads => exact ⟨isNew,.inr leads⟩
  · rintro ⟨isNew,leads | leads⟩
    · exact .more isNew leads
    · exact .leave isNew leads

theorem leads_star : Leads g seen (.star point greedy a) c d ↔
    seen.has (c.offset - g.origin) point = false ∧
      (d = c ∨ ∃ m, Leads g seen a c m ∧ Leads g seen (.star point greedy a) m d) := by
  constructor
  · intro leads
    cases leads with
    | starDone isNew => exact ⟨isNew,.inl rfl⟩
    | starMore isNew first rest => exact ⟨isNew,.inr ⟨_,first,rest⟩⟩
  · rintro ⟨isNew,rfl | ⟨m,first,rest⟩⟩
    · exact .starDone isNew
    · exact .starMore isNew first rest

theorem leads_plus : Leads g seen (.plus point greedy a) c d ↔
    ∃ m, Leads g seen a c m ∧ Leads g seen (.star point greedy a) m d := by
  constructor
  · intro leads
    cases leads with
    | plus first rest => exact ⟨_,first,rest⟩
  · rintro ⟨m,first,rest⟩
    exact .plus first rest

end Unrolled

namespace Regular

def unroll : Regular → Nat → Unrolled
  | empty, _ => .empty
  | one set, _ => .one set
  | look condition, _ => .look condition
  | group index body, point =>
    .seq (.slot (2 * index)) (.seq (body.unroll point) (.slot (2 * index + 1)))
  | seq first second, point => .seq (first.unroll point) (second.unroll (point + first.points))
  | alt first second, point =>
    .choice point true (first.unroll (point + 1)) (second.unroll (point + 1 + first.points))
  | many body least none greedy, point =>
    match least with
    | 0 =>
      if body.nullable then
        .choice (point + 1) greedy (.plus point greedy (body.unroll (point + 2))) .empty
      else .star point greedy (body.unroll (point + 2))
    | least + 1 =>
      .seq (.copies body.unroll body.points least (point + 2 + body.points))
        (.plus point greedy (body.unroll (point + 2)))
  | many body least (some most) greedy, point =>
    .seq (.copies body.unroll body.points least point)
      (.upTo body.unroll body.points greedy (most - least) (point + least * body.points))

theorem run_unroll (g : Grid) (e : Regular) (point : Nat) (next : Next) :
    (e.unroll point).run g next = e.run g point next := by
  induction e generalizing point next with
  | empty | one | look => rfl
  | group index body ih => simp only [unroll,Unrolled.run,run,ih]
  | seq first second ih ih' => simp only [unroll,Unrolled.run,run,ih,ih']
  | alt first second ih ih' => simp only [unroll,Unrolled.run,run,ih,ih']
  | many body least most greedy ih =>
    have same : (fun point => (body.unroll point).run g) = body.run g := by
      funext point next
      exact ih point next
    have part (point) : (body.unroll point).run g = body.run g point := congrFun same point
    cases most with
    | some most =>
      simp only [unroll,Unrolled.run,Unrolled.run_copies,Unrolled.run_upTo,run,same]
    | none =>
      cases least with
      | succ least => simp only [unroll,Unrolled.run,Unrolled.run_copies,run,part]
      | zero =>
        simp only [unroll,run]
        split <;> simp only [*,Unrolled.run]

theorem unroll_within (e : Regular) (point : Nat) :
    (e.unroll point).Within point (point + e.points) := by
  induction e generalizing point with
  | empty | one | look => exact .of_nil rfl
  | group index body ih =>
    refine ⟨?_,fun p member => (ih point).bounds p ?_⟩
    · simpa [unroll,Unrolled.points] using (ih point).nodup
    · simpa [unroll,Unrolled.points] using member
  | seq first second ih ih' =>
    have right := ih' (point + first.points)
    rw [Nat.add_assoc] at right
    exact (ih point).seq right (by omega) (by simp [points])
  | alt first second ih ih' =>
    refine ((ih (point + 1)).choice (ih' _) (by omega) (by omega)).weaken (Nat.le_refl _) ?_
    simp only [points]
    omega
  | many body least most greedy ih =>
    cases most with
    | some most =>
      have first := Unrolled.copies_within ih least point
      have rest := Unrolled.upTo_within ih greedy (most - least) (point + least * body.points)
      refine (first.seq rest (by omega) (by omega)).weaken (Nat.le_refl _) ?_
      simp only [points]
      omega
    | none =>
      have inner := ih (point + 2)
      have once : (Unrolled.plus point greedy (body.unroll (point + 2))).Within point
          (point + 2 + body.points) :=
        .cons rfl (inner.weaken (by omega) (Nat.le_refl _)) (by omega)
      cases least with
      | succ least =>
        have first := Unrolled.copies_within ih least (point + 2 + body.points)
        refine (first.seqBack once (by omega) (by omega)).weaken (Nat.le_refl _) ?_
        have size : max 1 (least + 1) * body.points = body.points + least * body.points := by
          rw [Nat.max_eq_right (by omega),Nat.succ_mul,Nat.add_comm]
        simp only [points,size]
        omega
      | zero =>
        simp only [unroll,points,Nat.max_zero,Nat.one_mul]
        split
        · have apart : point + 1 ∉ (body.unroll (point + 2)).points := fun member => by
            have := inner.bounds _ member
            omega
          have nodup := List.nodup_cons.mp once.nodup
          refine ⟨by simpa [Unrolled.points] using ⟨apart,nodup⟩,fun p member => ?_⟩
          have cases : p = point + 1 ∨ p ∈ (Unrolled.plus point greedy
              (body.unroll (point + 2))).points := by
            simpa [Unrolled.points] using member
          rcases cases with rfl | member
          · omega
          · have := once.bounds p member
            omega
        · exact (Unrolled.Within.cons rfl (inner.weaken (by omega) (Nat.le_refl _))
            (by omega)).weaken (Nat.le_refl _) (by omega)

section

variable {body : Regular} {greedy : Bool} {g : Grid} {size : Nat}
  (each : ∀ point c d, Unrolled.Leads g {} (body.unroll point) c d ↔ body.Matches c d)

include each

/-- A repetition begins with its least number of copies. -/
theorem matches_many_iff (least extra point : Nat) (most : Option Nat) (c d : Cursor) :
    Matches (.many body (extra + least) most greedy) c d ↔
      ∃ m, Unrolled.Leads g {} (.copies body.unroll size least point) c m ∧
        Matches (.many body extra (most.map (· - least)) greedy) m d := by
  induction least generalizing point most c with
  | zero =>
    have same : most.map (· - 0) = most := by cases most <;> rfl
    rw [same]
    constructor
    · intro matched
      exact ⟨c,.empty,matched⟩
    · rintro ⟨m,⟨⟩,matched⟩
      exact matched
  | succ least ih =>
    have same : (most.map (· - 1)).map (· - least) = most.map (· - (least + 1)) := by
      cases most <;> simp [Nat.sub_sub,Nat.add_comm]
    simp only [Unrolled.copies,Unrolled.leads_seq,← same]
    constructor
    · intro matched
      cases matched with
      | manyMore _ first rest =>
        obtain ⟨m,others,rest⟩ := (ih (point + size) _ _).mp rest
        exact ⟨m,⟨_,(each _ _ _).mpr first,others⟩,rest⟩
    · rintro ⟨m,⟨m',first,others⟩,rest⟩
      exact .manyMore (by simp) ((each _ _ _).mp first) ((ih _ _ _).mpr ⟨m,others,rest⟩)

theorem matches_upTo_iff (count point : Nat) (c d : Cursor) :
    Matches (.many body 0 (some count) greedy) c d ↔
      Unrolled.Leads g {} (.upTo body.unroll size greedy count point) c d := by
  induction count generalizing point c with
  | zero =>
    constructor
    · intro matched
      cases matched with
      | manyDone => exact .empty
      | manyMore room => simp at room
    · rintro ⟨⟩
      exact .manyDone
  | succ count ih =>
    simp only [Unrolled.upTo,Unrolled.leads_choice,Unrolled.leads_seq]
    constructor
    · intro matched
      refine ⟨by simp,?_⟩
      cases matched with
      | manyDone => exact .inr .empty
      | manyMore _ first rest => exact .inl ⟨_,(each _ _ _).mpr first,(ih _ _).mp rest⟩
    · rintro ⟨_,⟨m,first,rest⟩ | done⟩
      · exact .manyMore (by simp) ((each _ _ _).mp first) ((ih _ _).mpr rest)
      · cases done
        exact .manyDone

theorem matches_star_iff (inner point : Nat) (c d : Cursor) :
    Matches (.many body 0 none greedy) c d ↔
      Unrolled.Leads g {} (.star point greedy (body.unroll inner)) c d := by
  constructor
  · refine Matches.star_induction
      (motive := Unrolled.Leads g {} (.star point greedy (body.unroll inner)))
      (fun c => .starDone (by simp)) fun c m d first rest => ?_
    exact .starMore (by simp) ((each _ _ _).mpr first) rest
  · intro leads
    generalize isStar : Unrolled.star point greedy (body.unroll inner) = star at leads
    induction leads with
    | empty | one | look | slot | seq | more | leave | plus => cases isStar
    | starDone => exact .manyDone
    | starMore _ first _ _ ih =>
      cases isStar
      exact matches_star.mpr (.inr ⟨_,(each _ _ _).mp first,ih rfl⟩)

end

/-- Where no choice has been made, the unrolled form leads to what the expression matches. -/
theorem leads_unroll_iff (g : Grid) (e : Regular) (point : Nat) (c d : Cursor) :
    Unrolled.Leads g {} (e.unroll point) c d ↔ e.Matches c d := by
  induction e generalizing point c d with
  | empty => exact Unrolled.leads_empty.trans matches_empty.symm
  | one set =>
    rw [matches_one]
    constructor
    · rintro (_ | ⟨reads,member⟩); exact ⟨_,member,reads⟩
    · rintro ⟨ch,member,reads⟩; exact .one reads member
  | look condition =>
    rw [matches_look]
    constructor
    · rintro (_ | _ | holds); exact ⟨holds,rfl⟩
    · rintro ⟨holds,rfl⟩; exact .look holds
  | group index body ih =>
    rw [matches_group,← ih point]
    constructor
    · rintro (_ | _ | _ | _ | ⟨⟨⟩,_ | _ | _ | _ | ⟨leads,⟨⟩⟩⟩)
      exact leads
    · intro leads
      exact .seq .slot (.seq leads .slot)
  | seq first second ih ih' => simp only [unroll,Unrolled.leads_seq,matches_seq,ih,ih']
  | alt first second ih ih' => simp [unroll,Unrolled.leads_choice,matches_alt,ih,ih']
  | many body least most greedy ih =>
    cases most with
    | some most =>
      have rest := @matches_many_iff body greedy g body.points ih least 0 point (some most) c d
      have extra := @matches_upTo_iff body greedy g body.points ih (most - least)
        (point + least * body.points)
      rw [Nat.zero_add] at rest
      rw [rest]
      simp only [unroll,Unrolled.leads_seq,Option.map_some,extra]
    | none =>
      cases least with
      | succ least =>
        have rest := @matches_many_iff body greedy g body.points ih least 1
          (point + 2 + body.points) none c d
        rw [Nat.add_comm least 1,rest]
        simp only [Nat.add_comm 1,unroll,Unrolled.leads_seq,Unrolled.leads_plus,Option.map_none,
          matches_plus,ih,← matches_star_iff ih]
      | zero =>
        simp only [unroll]
        split
        · rw [matches_star,or_comm]
          simp only [Unrolled.leads_choice,Unrolled.leads_plus,Unrolled.leads_empty,ih,
            ← matches_star_iff ih,Seen.has_empty,true_and]
        · exact (matches_star_iff ih _ _ _ _).symm

end Regular

end Highlighting.Pattern
