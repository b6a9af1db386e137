import Highlighting.Proofs.Unrolled

/-! A run that fails has tried everything. It passes over choices that were made before, so this
takes an invariant of what has been seen: behind a choice that came to nothing there is no way to
a match without another such choice. As a match would have a last one of them, there is none. -/
namespace Highlighting.Pattern

namespace Seen

def Le (seen later : Seen) : Prop := ∀ i j, seen.has i j → later.has i j

theorem Le.refl (seen : Seen) : seen.Le seen := fun _ _ has => has

theorem Le.trans {a b c : Seen} (le : a.Le b) (le' : b.Le c) : a.Le c :=
  fun i j has => le' i j (le i j has)

theorem le_add (seen : Seen) (i j : Nat) : seen.Le (seen.add i j) := by
  intro i' j' has
  simp [has]

theorem Le.has_eq_false {seen later : Seen} (le : seen.Le later) {i j : Nat}
    (isNew : later.has i j = false) : seen.has i j = false := by
  by_contra has
  rw [le i j (by simpa using has)] at isNew
  contradiction

end Seen

namespace Unrolled

/-- What is left to do behind a place can succeed, without a choice that has been made before. -/
abbrev Hope := Seen → Cursor → Prop

/-- The more choices have been made, the less can still succeed. -/
def Hope.Fades (hope : Hope) : Prop :=
  ∀ seen later c, seen.Le later → hope later c → hope seen c

/-- Taken at `c`, one of the two ways of the choice at a point leads on to `d`. -/
inductive Behind (g : Grid) (seen : Seen) : Unrolled → Nat → Cursor → Cursor → Prop where
  | first {a b p c d e} : Behind g seen a p c d → Leads g seen b d e →
      Behind g seen (.seq a b) p c e
  | second {a b p c d} : Behind g seen b p c d → Behind g seen (.seq a b) p c d
  | more {p greedy a b c d} : Leads g seen a c d → Behind g seen (.choice p greedy a b) p c d
  | leave {p greedy a b c d} : Leads g seen b c d → Behind g seen (.choice p greedy a b) p c d
  | inMore {q greedy a b p c d} : Behind g seen a p c d →
      Behind g seen (.choice q greedy a b) p c d
  | inLeave {q greedy a b p c d} : Behind g seen b p c d →
      Behind g seen (.choice q greedy a b) p c d
  | starDone {p greedy a c} : Behind g seen (.star p greedy a) p c c
  | starMore {p greedy a c d e} : Leads g seen a c d → Leads g seen (.star p greedy a) d e →
      Behind g seen (.star p greedy a) p c e
  | inStar {q greedy a p c d e} : Behind g seen a p c d → Leads g seen (.star q greedy a) d e →
      Behind g seen (.star q greedy a) p c e
  | ofStar {q greedy a p c d} : Behind g seen (.star q greedy a) p c d →
      Behind g seen (.plus q greedy a) p c d

variable {g : Grid} {seen later : Seen} {a b : Unrolled} {p q : Nat} {c d : Cursor}

theorem Leads.fade (le : seen.Le later) (leads : Leads g later a c d) : Leads g seen a c d := by
  induction leads with
  | empty => exact .empty
  | one reads member => exact .one reads member
  | look holds => exact .look holds
  | slot => exact .slot
  | seq _ _ ih ih' => exact .seq ih ih'
  | more isNew _ ih => exact .more (le.has_eq_false isNew) ih
  | leave isNew _ ih => exact .leave (le.has_eq_false isNew) ih
  | starDone isNew => exact .starDone (le.has_eq_false isNew)
  | starMore isNew _ _ ih ih' => exact .starMore (le.has_eq_false isNew) ih ih'
  | plus _ _ ih ih' => exact .plus ih ih'

theorem Behind.fade (le : seen.Le later) (behind : Behind g later a p c d) :
    Behind g seen a p c d := by
  induction behind with
  | first _ leads ih => exact .first ih (leads.fade le)
  | second _ ih => exact .second ih
  | more leads => exact .more (leads.fade le)
  | leave leads => exact .leave (leads.fade le)
  | inMore _ ih => exact .inMore ih
  | inLeave _ ih => exact .inLeave ih
  | starDone => exact .starDone
  | starMore leads leads' => exact .starMore (leads.fade le) (leads'.fade le)
  | inStar _ leads ih => exact .inStar ih (leads.fade le)
  | ofStar _ ih => exact .ofStar ih

theorem Behind.mem_points (behind : Behind g seen a p c d) : p ∈ a.points := by
  induction behind with
  | first _ _ ih | second _ ih | inMore _ ih | inLeave _ ih | inStar _ _ ih | ofStar _ ih =>
    simp_all [points]
  | more | leave | starDone | starMore => simp [points]

/-- The hope that is left in front of a part. -/
def before (g : Grid) (a : Unrolled) (hope : Hope) : Hope := fun seen c =>
  ∃ d, Leads g seen a c d ∧ hope seen d

theorem before_fades {hope : Hope} (fades : hope.Fades) : (before g a hope).Fades := by
  rintro seen later c le ⟨d,leads,rest⟩
  exact ⟨d,leads.fade le,fades _ _ _ le rest⟩

/-- Every choice of the part is followed by what `fate` says of its point. -/
def Agrees (g : Grid) (a : Unrolled) (hope : Hope) (fate : Nat → Hope) : Prop :=
  ∀ p ∈ a.points, ∀ seen c, fate p seen c ↔ ∃ d, Behind g seen a p c d ∧ hope seen d

section

variable {hope : Hope} {fate : Nat → Hope} {greedy : Bool}

theorem Agrees.first (nodup : (seq a b).points.Nodup) (agrees : Agrees g (.seq a b) hope fate) :
    Agrees g a (before g b hope) fate := by
  intro p member seen c
  rw [agrees p (by simp [points,member])]
  constructor
  · rintro ⟨d,behind | behind,rest⟩
    · exact ⟨_,by assumption,d,by assumption,rest⟩
    · exact absurd behind.mem_points (List.nodup_append'.mp nodup |>.2.2 member)
  · rintro ⟨d,behind,e,leads,rest⟩
    exact ⟨e,.first behind leads,rest⟩

theorem Agrees.second (nodup : (seq a b).points.Nodup) (agrees : Agrees g (.seq a b) hope fate) :
    Agrees g b hope fate := by
  intro p member seen c
  rw [agrees p (by simp [points,member])]
  constructor
  · rintro ⟨d,behind | behind,rest⟩
    · exact absurd member (List.nodup_append'.mp nodup |>.2.2 behind.mem_points)
    · exact ⟨d,behind,rest⟩
  · rintro ⟨d,behind,rest⟩
    exact ⟨d,.second behind,rest⟩

theorem Agrees.here (nodup : (choice p greedy a b).points.Nodup)
    (agrees : Agrees g (.choice p greedy a b) hope fate) (seen : Seen) (c : Cursor) :
    fate p seen c ↔ before g a hope seen c ∨ before g b hope seen c := by
  have apart := (List.nodup_cons.mp nodup).1
  simp only [List.mem_append,not_or] at apart
  rw [agrees p (by simp [points])]
  constructor
  · rintro ⟨d,behind,rest⟩
    cases behind with
    | more leads => exact .inl ⟨d,leads,rest⟩
    | leave leads => exact .inr ⟨d,leads,rest⟩
    | inMore behind => exact absurd behind.mem_points apart.1
    | inLeave behind => exact absurd behind.mem_points apart.2
  · rintro (⟨d,leads,rest⟩ | ⟨d,leads,rest⟩)
    · exact ⟨d,.more leads,rest⟩
    · exact ⟨d,.leave leads,rest⟩

/-- Inside of a choice its two ways are as good as parts in a row: both go on to the same end. -/
theorem Agrees.inside (nodup : (choice q greedy a b).points.Nodup)
    (agrees : Agrees g (.choice q greedy a b) hope fate) :
    Agrees g a hope fate ∧ Agrees g b hope fate := by
  obtain ⟨apart,nodup⟩ := List.nodup_cons.mp nodup
  simp only [List.mem_append,not_or] at apart
  have disjoint := (List.nodup_append'.mp nodup).2.2
  constructor
  · intro p member seen c
    rw [agrees p (by simp [points,member])]
    constructor
    · rintro ⟨d,behind,rest⟩
      cases behind with
      | more | leave => exact absurd member apart.1
      | inMore behind => exact ⟨d,behind,rest⟩
      | inLeave behind => exact absurd behind.mem_points (disjoint member)
    · rintro ⟨d,behind,rest⟩
      exact ⟨d,.inMore behind,rest⟩
  · intro p member seen c
    rw [agrees p (by simp [points,member])]
    constructor
    · rintro ⟨d,behind,rest⟩
      cases behind with
      | more | leave => exact absurd member apart.2
      | inMore behind => exact absurd member (disjoint behind.mem_points)
      | inLeave behind => exact ⟨d,behind,rest⟩
    · rintro ⟨d,behind,rest⟩
      exact ⟨d,.inLeave behind,rest⟩

theorem Agrees.starHere (nodup : (star p greedy a).points.Nodup)
    (agrees : Agrees g (.star p greedy a) hope fate) (seen : Seen) (c : Cursor) :
    fate p seen c ↔
      before g a (before g (.star p greedy a) hope) seen c ∨ hope seen c := by
  have apart := (List.nodup_cons.mp nodup).1
  rw [agrees p (by simp [points])]
  constructor
  · rintro ⟨d,behind,rest⟩
    cases behind with
    | starDone => exact .inr rest
    | starMore first leads => exact .inl ⟨_,first,d,leads,rest⟩
    | inStar behind => exact absurd behind.mem_points apart
  · rintro (⟨m,first,d,leads,rest⟩ | rest)
    · exact ⟨d,.starMore first leads,rest⟩
    · exact ⟨c,.starDone,rest⟩

theorem Agrees.inStar (nodup : (star q greedy a).points.Nodup)
    (agrees : Agrees g (.star q greedy a) hope fate) :
    Agrees g a (before g (.star q greedy a) hope) fate := by
  have apart := (List.nodup_cons.mp nodup).1
  intro p member seen c
  rw [agrees p (by simp [points,member])]
  constructor
  · rintro ⟨d,behind,rest⟩
    cases behind with
    | starDone | starMore => exact absurd member apart
    | inStar behind leads => exact ⟨_,behind,d,leads,rest⟩
  · rintro ⟨m,behind,d,leads,rest⟩
    exact ⟨d,.inStar behind leads,rest⟩

theorem Agrees.ofPlus (agrees : Agrees g (.plus q greedy a) hope fate) :
    Agrees g (.star q greedy a) hope fate := by
  intro p member seen c
  rw [agrees p member]
  constructor
  · rintro ⟨d,⟨⟩,rest⟩
    exact ⟨d,by assumption,rest⟩
  · rintro ⟨d,behind,rest⟩
    exact ⟨d,.ofStar behind,rest⟩

/-- If the run fails, it has dashed all hope: no way is left here without a choice that has been
made, nor behind any of the choices that the run has added. -/
def Exhausts (g : Grid) (fate : Nat → Hope) (hope : Hope) (next : Next) (r : Reached)
    (seen : Seen) : Prop :=
  ∀ later, next r seen = (none,later) → seen.Le later ∧ ¬ hope later r.place ∧
    ∀ c p, c.text = r.place.text → g.origin ≤ c.offset → later.has (c.offset - g.origin) p →
      seen.has (c.offset - g.origin) p ∨ ¬ fate p later c

variable {hope' : Hope} {next first second : Next} {r : Reached}

theorem Exhausts.weaken (exhausts : Exhausts g fate hope next r seen)
    (weaker : ∀ seen, hope' seen r.place → hope seen r.place) :
    Exhausts g fate hope' next r seen := by
  intro later failed
  obtain ⟨le,hopeless,spent⟩ := exhausts later failed
  exact ⟨le,fun h => hopeless (weaker later h),spent⟩

/-- A repetition that finds its choice made is hopeless. -/
theorem seen_exhausts {body : Unrolled} {point : Nat}
    (failed : next r seen = (none,seen)) (has : seen.has (r.offset - g.origin) point) :
    Exhausts g fate (before g (.star point greedy body) hope) next r seen := by
  intro later failed'
  rw [failed] at failed'
  cases failed'
  refine ⟨.refl _,?_,fun c p _ _ has => .inl has⟩
  rintro ⟨d,leads,_⟩
  obtain ⟨isNew,_⟩ := leads_star.mp leads
  rw [show r.offset = r.place.offset from rfl,isNew] at has
  contradiction

section

variable (fateFades : ∀ p, (fate p).Fades)

include fateFades

theorem orElse_exhausts (fades : hope.Fades)
    (exhausts : Exhausts g fate hope first r seen)
    (exhausts' : ∀ later, seen.Le later → Exhausts g fate hope' second r later) :
    Exhausts g fate (fun seen c => hope seen c ∨ hope' seen c) (Next.orElse first second) r
      seen := by
  intro last failed
  rcases answer : first r seen with ⟨_ | u,later⟩
  · simp only [Next.orElse,answer] at failed
    obtain ⟨le,hopeless,spent⟩ := exhausts later answer
    obtain ⟨le',hopeless',spent'⟩ := exhausts' later le last failed
    refine ⟨le.trans le',?_,fun c p text origin has => ?_⟩
    · rintro (rest | rest)
      · exact hopeless (fades _ _ _ le' rest)
      · exact hopeless' rest
    · rcases spent' c p text origin has with has | spent'
      · exact (spent c p text origin has).imp_right fun spent h => spent (fateFades p _ _ _ le' h)
      · exact .inr spent'
  · simp [Next.orElse,answer] at failed

theorem choose_exhausts {point : Nat}
    (here : ∀ seen c, fate point seen c ↔ hope seen c ∨ hope' seen c)
    (fades : hope.Fades) (fades' : hope'.Fades) (origin : g.origin ≤ r.offset)
    (exhausts : ∀ later, (seen.add (r.offset - g.origin) point).Le later →
      Exhausts g fate hope first r later)
    (exhausts' : ∀ later, (seen.add (r.offset - g.origin) point).Le later →
      Exhausts g fate hope' second r later) :
    Exhausts g fate (fun seen c => seen.has (c.offset - g.origin) point = false ∧
      (hope seen c ∨ hope' seen c)) (g.choose point greedy first second) r seen := by
  intro later failed
  simp only [Grid.choose] at failed
  split at failed
  · next has =>
    cases failed
    refine ⟨.refl _,?_,fun c p _ _ has => .inl has⟩
    rintro ⟨isNew,_⟩
    rw [show r.place.offset = r.offset from rfl,has] at isNew
    contradiction
  · next isNew =>
    -- Both orders of the two ways dash the same hope.
    have both : Exhausts g fate (fun seen c => hope seen c ∨ hope' seen c)
        (if greedy then Next.orElse first second else Next.orElse second first) r
        (seen.add (r.offset - g.origin) point) := by
      cases greedy with
      | true => exact orElse_exhausts fateFades fades (exhausts _ (.refl _)) exhausts'
      | false =>
        exact (orElse_exhausts fateFades fades' (exhausts' _ (.refl _)) exhausts).weaken
          fun _ => Or.symm
    obtain ⟨le,hopeless,spent⟩ := both later failed
    refine ⟨(seen.le_add _ _).trans le,fun rest => hopeless rest.2,?_⟩
    intro c p text atOrigin has
    rcases spent c p text atOrigin has with has | spent
    · simp only [Seen.has_add,Bool.or_eq_true,Bool.and_eq_true,beq_iff_eq] at has
      rcases has with has | ⟨place,rfl⟩
      · exact .inl has
      · have same : c = r.place := Cursor.eq_of_offset text (by
          have : r.offset = r.place.offset := rfl
          omega)
        rw [same,here]
        exact .inr hopeless
    · exact .inr spent

/-- A further copy begins behind the one before it or finds its choice made, so the fuel of a
repetition lasts as long as there are places. -/
theorem again_exhausts {body : Unrolled} {point : Nat}
    (part : ∀ {hope : Hope} {next : Next} {r : Reached} {seen : Seen}, hope.Fades →
      Agrees g body hope fate → g.origin ≤ r.offset → r.place.after.length < g.places →
      (∀ d later, r.place.Onward d.place → seen.Le later → Exhausts g fate hope next d later) →
      Exhausts g fate (before g body hope) (body.run g next) r seen)
    (nodup : (star point greedy body).points.Nodup) (fades : hope.Fades)
    (agrees : Agrees g (.star point greedy body) hope fate) (fuel : Nat)
    (origin : g.origin ≤ r.offset) (room : r.place.after.length < g.places)
    (enough : r.place.after.length < fuel ∨
      r.place.after.length ≤ fuel ∧ seen.has (r.offset - g.origin) point)
    (rest : ∀ d later, r.place.Onward d.place → seen.Le later →
      Exhausts g fate hope next d later) :
    Exhausts g fate (before g (.star point greedy body) hope)
      (g.again (body.run g) point greedy next fuel) r seen := by
  induction fuel generalizing r seen with
  | zero => exact seen_exhausts rfl (enough.resolve_left (by omega)).2
  | succ fuel ih =>
    by_cases has : seen.has (r.offset - g.origin) point
    · exact seen_exhausts (by simp [Grid.again,Grid.choose,has,Next.fail]) has
    replace enough := enough.resolve_right fun both => has both.2
    have onceMore := before_fades (g := g) (a := .star point greedy body) fades
    have two : Exhausts g fate (fun seen c => seen.has (c.offset - g.origin) point = false ∧
        (before g body (before g (.star point greedy body) hope) seen c ∨ hope seen c))
        (g.again (body.run g) point greedy next (fuel + 1)) r seen := by
      refine choose_exhausts fateFades (agrees.starHere nodup) (before_fades onceMore) fades origin
        ?_ ?_
      · intro later le
        refine part onceMore (agrees.inStar nodup) origin room fun d last onward le' => ?_
        have le'' := ((seen.le_add _ _).trans le).trans le'
        refine ih (Nat.le_trans origin onward.offset) ?_ ?_ ?_
        · exact Nat.lt_of_le_of_lt onward.length_le room
        · rcases onward.eq_or_lt with same | less
          · right
            have has := (le.trans le') (r.offset - g.origin) point (by simp)
            rw [Reached.offset,same]
            exact ⟨by omega,has⟩
          · left
            omega
        · intro d' later' onward' le'''
          exact rest d' later' (onward.trans onward') (le''.trans le''')
      · intro later le
        exact rest r later (.refl _) ((seen.le_add _ _).trans le)
    refine two.weaken fun seen => ?_
    rintro ⟨d,leads,rest⟩
    obtain ⟨isNew,rfl | ⟨m,first,others⟩⟩ := leads_star.mp leads
    · exact ⟨isNew,.inr rest⟩
    · exact ⟨isNew,.inl ⟨m,first,d,others,rest⟩⟩

/-- A run that fails has dashed the hope for every way of going on that makes no choice twice. -/
theorem run_exhausts (a : Unrolled) {hope : Hope} {next : Next} {r : Reached} {seen : Seen}
    (nodup : a.points.Nodup) (fades : hope.Fades) (agrees : Agrees g a hope fate)
    (origin : g.origin ≤ r.offset) (room : r.place.after.length < g.places)
    (rest : ∀ d later, r.place.Onward d.place → seen.Le later →
      Exhausts g fate hope next d later) :
    Exhausts g fate (before g a hope) (a.run g next) r seen := by
  induction a generalizing hope next r seen with
  | empty =>
    refine (rest r seen (.refl _) (.refl _)).weaken fun seen => ?_
    rintro ⟨d,⟨⟩,rest⟩
    exact rest
  | slot index =>
    refine (rest (r.setSlot index) seen (.refl _) (.refl _)).weaken fun seen => ?_
    rintro ⟨d,⟨⟩,rest⟩
    exact rest
  | one set =>
    intro later failed
    simp only [run] at failed
    split at failed
    · next ch place step =>
      have reads := Cursor.next?_eq_some.mp step
      split at failed
      · obtain ⟨le,hopeless,spent⟩ := rest _ seen reads.onward (.refl _) later failed
        refine ⟨le,?_,fun c p text => spent c p (text.trans reads.text.symm)⟩
        rintro ⟨d,leads,rest⟩
        cases leads with
        | one reads' =>
          have same := Cursor.next?_eq_some.mpr reads'
          rw [step] at same
          cases same
          exact hopeless rest
      · next missing =>
        cases failed
        refine ⟨.refl _,?_,fun c p _ _ has => .inl has⟩
        rintro ⟨d,leads,_⟩
        cases leads with
        | one reads' member =>
          have same := Cursor.next?_eq_some.mpr reads'
          rw [step] at same
          cases same
          exact missing member
    · next step =>
      cases failed
      refine ⟨.refl _,?_,fun c p _ _ has => .inl has⟩
      rintro ⟨d,leads,_⟩
      cases leads with
      | one reads' =>
        rw [Cursor.next?_eq_some.mpr reads'] at step
        contradiction
  | look condition =>
    intro later failed
    simp only [run] at failed
    split at failed
    · obtain ⟨le,hopeless,spent⟩ := rest r seen (.refl _) (.refl _) later failed
      refine ⟨le,?_,spent⟩
      rintro ⟨d,⟨⟩,rest⟩
      exact hopeless rest
    · next fails =>
      cases failed
      refine ⟨.refl _,?_,fun c p _ _ has => .inl has⟩
      rintro ⟨d,leads,_⟩
      cases leads with
      | look holds => exact fails holds
  | seq a b ih ih' =>
    obtain ⟨nodupA,nodupB,_⟩ := List.nodup_append'.mp nodup
    refine (ih nodupA (before_fades fades) (agrees.first nodup) origin room ?_).weaken ?_
    · intro d later onward le
      refine ih' nodupB fades (agrees.second nodup) (Nat.le_trans origin onward.offset)
        (Nat.lt_of_le_of_lt onward.length_le room) ?_
      intro d' later' onward' le'
      exact rest d' later' (onward.trans onward') (le.trans le')
    · rintro seen ⟨e,leads,rest⟩
      obtain ⟨d,first,second⟩ := leads_seq.mp leads
      exact ⟨d,first,e,second,rest⟩
  | choice point greedy a b ih ih' =>
    obtain ⟨nodupA,nodupB,_⟩ := List.nodup_append'.mp (List.nodup_cons.mp nodup).2
    obtain ⟨agreesA,agreesB⟩ := agrees.inside nodup
    refine (choose_exhausts fateFades (agrees.here nodup) (before_fades fades)
      (before_fades fades) origin ?_ ?_).weaken ?_
    · intro later le
      exact ih nodupA fades agreesA origin room fun d last onward le' =>
        rest d last onward (((seen.le_add _ _).trans le).trans le')
    · intro later le
      exact ih' nodupB fades agreesB origin room fun d last onward le' =>
        rest d last onward (((seen.le_add _ _).trans le).trans le')
    · rintro seen ⟨d,leads,rest⟩
      obtain ⟨isNew,leads | leads⟩ := leads_choice.mp leads
      · exact ⟨isNew,.inl ⟨d,leads,rest⟩⟩
      · exact ⟨isNew,.inr ⟨d,leads,rest⟩⟩
  | star point greedy body ih =>
    exact again_exhausts fateFades (ih (List.nodup_cons.mp nodup).2) nodup fades agrees g.places
      origin room (.inl room) rest
  | plus point greedy body ih =>
    have inner := agrees.ofPlus
    have part := fun {hope next r seen} => @ih hope next r seen (List.nodup_cons.mp nodup).2
    refine (part (before_fades fades) (inner.inStar nodup) origin room ?_).weaken ?_
    · intro d later onward le
      refine again_exhausts fateFades part nodup fades inner g.places
        (Nat.le_trans origin onward.offset) (Nat.lt_of_le_of_lt onward.length_le room)
        (.inl (Nat.lt_of_le_of_lt onward.length_le room)) ?_
      intro d' later' onward' le'
      exact rest d' later' (onward.trans onward') (le.trans le')
    · rintro seen ⟨e,leads,rest⟩
      obtain ⟨d,first,others⟩ := leads_plus.mp leads
      exact ⟨d,first,e,others,rest⟩

end

def Spent (g : Grid) (fate : Nat → Hope) (text : Text) (seen : Seen) : Prop :=
  ∀ c p, c.text = text → g.origin ≤ c.offset → seen.has (c.offset - g.origin) p →
    ¬ fate p seen c

theorem Spent.isNew {text : Text} (spent : Spent g fate text seen) (inText : c.text = text)
    (origin : g.origin ≤ c.offset) (hopeful : fate p seen c) :
    seen.has (c.offset - g.origin) p = false := by
  by_contra has
  exact spent c p inText origin (by simpa using has) hopeful

/-- If all choices that have been made came to nothing, a way that leads on makes none of them:
behind the last one it would make there would be a way without them. -/
theorem Leads.avoid {text : Text} (spent : Spent g fate text seen) (leads : Leads g {} a c d)
    (nodup : a.points.Nodup) (agrees : Agrees g a hope fate) (inText : c.text = text)
    (origin : g.origin ≤ c.offset) (rest : hope seen d) : before g a hope seen c := by
  induction leads generalizing hope with
  | empty => exact ⟨_,.empty,rest⟩
  | one reads member => exact ⟨_,.one reads member,rest⟩
  | look holds => exact ⟨_,.look holds,rest⟩
  | slot => exact ⟨_,.slot,rest⟩
  | @seq a b c d e first _ ih ih' =>
    obtain ⟨nodupA,nodupB,_⟩ := List.nodup_append'.mp nodup
    have onward := first.onward
    have second := ih' nodupB (agrees.second nodup) (onward.text.trans inText)
      (Nat.le_trans origin onward.offset) rest
    obtain ⟨m,first,e,second,rest⟩ := ih nodupA (agrees.first nodup) inText origin second
    exact ⟨e,.seq first second,rest⟩
  | @more point greedy a b c d _ _ ih =>
    have inner := List.nodup_append'.mp (List.nodup_cons.mp nodup).2
    obtain ⟨m,leads,rest⟩ := ih inner.1 (agrees.inside nodup).1 inText origin rest
    have isNew := spent.isNew inText origin ((agrees.here nodup seen c).mpr (.inl ⟨m,leads,rest⟩))
    exact ⟨m,.more isNew leads,rest⟩
  | @leave point greedy a b c d _ _ ih =>
    have inner := List.nodup_append'.mp (List.nodup_cons.mp nodup).2
    obtain ⟨m,leads,rest⟩ := ih inner.2.1 (agrees.inside nodup).2 inText origin rest
    have isNew := spent.isNew inText origin ((agrees.here nodup seen c).mpr (.inr ⟨m,leads,rest⟩))
    exact ⟨m,.leave isNew leads,rest⟩
  | @starDone point greedy body c _ =>
    have isNew := spent.isNew inText origin ((agrees.starHere nodup seen c).mpr (.inr rest))
    exact ⟨_,.starDone isNew,rest⟩
  | @starMore point greedy body c d e _ first _ ih ih' =>
    have onward := first.onward
    have others := ih' nodup agrees (onward.text.trans inText)
      (Nat.le_trans origin onward.offset) rest
    have again := ih (List.nodup_cons.mp nodup).2 (agrees.inStar nodup) inText origin others
    have isNew := spent.isNew inText origin ((agrees.starHere nodup seen c).mpr (.inl again))
    obtain ⟨m,first,e,others,rest⟩ := again
    exact ⟨e,.starMore isNew first others,rest⟩
  | @plus point greedy body c d e first _ ih ih' =>
    have onward := first.onward
    have others := ih' nodup agrees.ofPlus (onward.text.trans inText)
      (Nat.le_trans origin onward.offset) rest
    obtain ⟨m,first,e,others,rest⟩ :=
      ih (List.nodup_cons.mp nodup).2 (agrees.ofPlus.inStar nodup) inText origin others
    exact ⟨e,.plus first others,rest⟩

end

end Unrolled

end Highlighting.Pattern
