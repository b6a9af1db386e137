import Highlighting.Pattern.Extended.Lowering
import Highlighting.Proofs.MatchStart

/-! What lowering keeps of an expression: only a `\K` in a positive look-behind of the expression
becomes a move of the start of the match in a look-behind of the program. -/
namespace Highlighting.Pattern.Extended

mutual

/-- Whether a `\K` stands in a positive look-behind; `inside` says that the expression itself
stands in one. In a negated look-around a `\K` has no effect. -/
def keepsOut (inside : Bool) : Extended → Bool
  | empty | one .. | look _ | backref _ | groupSet _ | searchStart => false
  | keepOut => inside
  | group _ body | many body _ _ _ | atomic body => keepsOut inside body
  | seq parts | alt parts => someKeepsOut inside parts
  | ahead negated body => !negated && keepsOut inside body
  | behind negated body => !negated && keepsOut true body
  | cond condition yes no =>
    keepsOut inside condition || keepsOut inside yes || keepsOut inside no

def someKeepsOut (inside : Bool) : List Extended → Bool
  | [] => false
  | part :: rest => keepsOut inside part || someKeepsOut inside rest

end

theorem exists_of_mapM {α β : Type} {f : α → Option β} {xs : List α} {ys : List β}
    (answers : xs.mapM f = some ys) {y : β} (member : y ∈ ys) : ∃ x ∈ xs, f x = some y := by
  induction xs generalizing ys with
  | nil =>
    cases answers
    contradiction
  | cons x xs ih =>
    simp only [List.mapM_cons,bind,Option.bind_eq_some_iff] at answers
    obtain ⟨first,answer,rest,others,same⟩ := answers
    cases same
    rcases List.mem_cons.mp member with rfl | member
    · exact ⟨x,List.mem_cons_self,answer⟩
    · obtain ⟨x',member',answer'⟩ := ih others member
      exact ⟨x',List.mem_cons_of_mem x member',answer'⟩

section

variable {inside : Bool}

theorem plain?_keepsOut {parts : List Extended} {p : Program} (lowered : plain? parts = some p) :
    p.keepsOut inside = false := by
  simp only [plain?] at lowered
  split at lowered
  · cases lowered; rfl
  · obtain ⟨e,_,rfl⟩ := Option.map_eq_some_iff.mp lowered
    rfl

theorem inRow_keepsOut {ps : List Program} (free : ∀ p ∈ ps, p.keepsOut inside = false) :
    (inRow ps).keepsOut inside = false := by
  induction ps with
  | nil => rfl
  | cons p ps ih =>
    have first := free p List.mem_cons_self
    have rest := ih fun q member => free q (List.mem_cons_of_mem p member)
    simp only [inRow,List.foldr_cons,Program.keepsOut,first,Bool.false_or]
    exact rest

theorem inTurn_keepsOut {ps : List Program} (free : ∀ p ∈ ps, p.keepsOut inside = false) :
    (inTurn ps).keepsOut inside = false := by
  induction ps with
  | nil => rfl
  | cons p ps ih =>
    have first := free p List.mem_cons_self
    have rest := ih fun q member => free q (List.mem_cons_of_mem p member)
    cases ps with
    | nil => exact first
    | cons q ps =>
      simp only [inTurn,Program.keepsOut,first,Bool.false_or]
      exact rest

theorem sequence?_keepsOut {strict : Bool} {parts : List Extended} {ms : List Measure}
    {programs : List (Option Program)} {p : Program}
    (lowered : sequence? strict parts ms programs = some p)
    (free : ∀ q, some q ∈ programs → q.keepsOut inside = false) : p.keepsOut inside = false := by
  simp only [sequence?,bind,Option.bind_eq_some_iff] at lowered
  obtain ⟨first,isFirst,inner,isInner,last,isLast,same⟩ := lowered
  cases same
  refine inRow_keepsOut fun q member => ?_
  rcases List.mem_append.mp member with member | member
  · rcases List.mem_cons.mp member with rfl | member
    · exact plain?_keepsOut isFirst
    · obtain ⟨_,member,rfl⟩ := exists_of_mapM isInner member
      exact free q (List.mem_of_mem_drop (List.mem_of_mem_take member))
  · rw [List.mem_singleton.mp member]
    exact plain?_keepsOut isLast

theorem behind?_keepsOut {negated : Bool} {m : Measure} {program : Option Program} {p : Program}
    (lowered : behind? negated m program = some p)
    (free : negated = false → ∀ q, program = some q → q.keepsOut true = false) :
    p.keepsOut inside = false := by
  simp only [behind?] at lowered
  split at lowered
  · contradiction
  · obtain ⟨q,body,rfl⟩ := Option.map_eq_some_iff.mp lowered
    cases negated with
    | true => rfl
    | false => exact Program.keepsOut_false _ (free rfl q body)

end

variable {retried : Nat → Bool}

mutual

/-- If no `\K` stands in a positive look-behind, the program does not move the start of the match
in one. -/
theorem lower?_keepsOut (inside : Bool) (e : Extended) {strict : Bool} {p : Program}
    (lowered : lower? retried strict e = some p) (free : e.keepsOut inside = false) :
    p.keepsOut inside = false := by
  unfold lower? at lowered
  split at lowered
  · exact plain?_keepsOut lowered
  cases e with
  | empty => cases lowered; rfl
  | one | look => exact plain?_keepsOut lowered
  | backref | groupSet | keepOut | searchStart => cases lowered; exact free
  | group index body =>
    obtain ⟨q,within,rfl⟩ := Option.map_eq_some_iff.mp lowered
    have kept : q.keepsOut inside = false := lower?_keepsOut inside body within free
    exact kept
  | atomic body =>
    obtain ⟨q,within,rfl⟩ := Option.map_eq_some_iff.mp lowered
    have kept : q.keepsOut inside = false := lower?_keepsOut inside body within free
    exact kept
  | many body least most greedy =>
    have kept {strict q} (lowered : lower? retried strict body = some q) : q.keepsOut inside = false :=
      lower?_keepsOut inside body lowered free
    simp only at lowered
    split at lowered
    · obtain ⟨q,within,rfl⟩ := Option.map_eq_some_iff.mp lowered
      exact (kept within :)
    · obtain ⟨q,within,rfl⟩ := Option.map_eq_some_iff.mp lowered
      exact (kept within :)
  | seq parts =>
    exact sequence?_keepsOut lowered fun q member => lowerEach_keepsOut inside parts member free
  | alt branches =>
    obtain ⟨ps,each,rfl⟩ := Option.map_eq_some_iff.mp lowered
    refine inTurn_keepsOut fun q member => ?_
    obtain ⟨_,member,rfl⟩ := exists_of_mapM each member
    exact lowerEach_keepsOut inside branches member free
  | ahead negated body =>
    obtain ⟨q,within,rfl⟩ := Option.map_eq_some_iff.mp lowered
    cases negated with
    | true => rfl
    | false =>
      have kept : q.keepsOut inside = false := lower?_keepsOut inside body within free
      simpa [Program.keepsOut] using kept
  | cond condition yes no =>
    simp only [bind,Option.bind_eq_some_iff] at lowered
    obtain ⟨c,isC,y,isY,n,isN,same⟩ := lowered
    cases same
    simp only [keepsOut,Bool.or_eq_false_iff] at free
    simp only [Program.keepsOut,Bool.or_eq_false_iff]
    exact ⟨⟨lower?_keepsOut inside condition isC free.1.1,lower?_keepsOut inside yes isY free.1.2⟩,
      lower?_keepsOut inside no isN free.2⟩
  | behind negated body =>
    have free (positive : negated = false) : body.keepsOut true = false := by
      subst positive
      exact free
    cases body with
    | alt branches =>
      have kept (positive : negated = false) {q : Program}
          (member : some q ∈ lowerEach retried false branches) : q.keepsOut true = false :=
        lowerEach_keepsOut true branches member (free positive)
      simp only at lowered
      split at lowered
      · refine behind?_keepsOut lowered fun positive q lowered => ?_
        split at lowered
        · exact plain?_keepsOut lowered
        · obtain ⟨ps,each,rfl⟩ := Option.map_eq_some_iff.mp lowered
          refine inTurn_keepsOut fun q member => ?_
          obtain ⟨_,member,rfl⟩ := exists_of_mapM each member
          exact kept positive member
      -- Branches of different lengths become look-behinds of their own.
      · simp only [bind,Option.bind_eq_some_iff] at lowered
        obtain ⟨looks,lowered,same⟩ := lowered
        cases same
        have each (q : Program) (member : q ∈ looks) : q.keepsOut inside = false := by
          obtain ⟨⟨m,program⟩,member,lowered⟩ := exists_of_mapM lowered member
          refine behind?_keepsOut lowered fun positive q' same => kept positive ?_
          rw [← same]
          exact (List.of_mem_zip member).2
        split
        · exact inRow_keepsOut each
        · exact inTurn_keepsOut each
    | _ =>
      exact behind?_keepsOut lowered fun positive q lowered =>
        lower?_keepsOut true _ lowered (free positive)

theorem lowerEach_keepsOut (inside : Bool) (parts : List Extended) {strict : Bool} {p : Program}
    (member : some p ∈ lowerEach retried strict parts) (free : someKeepsOut inside parts = false) :
    p.keepsOut inside = false := by
  cases parts with
  | nil => simp [lowerEach] at member
  | cons part rest =>
    simp only [someKeepsOut,Bool.or_eq_false_iff] at free
    rw [lowerEach] at member
    rcases List.mem_cons.mp member with first | member
    · exact lower?_keepsOut inside part first.symm free.1
    · exact lowerEach_keepsOut inside rest member free.2

end

end Highlighting.Pattern.Extended
