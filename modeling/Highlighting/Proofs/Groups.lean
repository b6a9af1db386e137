import Highlighting.Proofs.MatchStart

/-! Where groups begin and end. A group that is not open ends at the offset at which it began or
behind it, so there is a text between its ends. Only inside a group that has begun again the record
still has the end from before; so a search always has an answer if no reference stands inside the
group that it refers to. -/
namespace Highlighting.Pattern

namespace Slots

variable {slots : Slots} {slot other offset group : Nat}

theorem lookup_filter (keep : Nat → Bool) :
    (slots.filter fun entry => keep entry.1).lookup slot =
      if keep slot then slots.lookup slot else none := by
  induction slots with
  | nil => simp
  | cons entry slots ih =>
    obtain ⟨key,value⟩ := entry
    by_cases same : slot = key
    · subst same
      cases kept : keep slot <;> simp [kept,ih]
    · have apart : (slot == key) = false := by simpa using same
      cases kept : keep key <;> simp [List.lookup_cons,kept,ih,apart]

@[simp] theorem get?_set_self : (slots.set slot offset).get? slot = some offset := by
  simp [get?,set]

theorem get?_set_of_ne (apart : other ≠ slot) :
    (slots.set slot offset).get? other = slots.get? other := by
  have keeps : (other != slot) = true := by simpa using apart
  have skips : (other == slot) = false := by simpa using apart
  rw [get?,set,List.lookup_cons,skips]
  simp only [lookup_filter (· != slot),keeps,if_true]
  rfl

/-- If a group has both ends, there is a text between them. -/
def Whole (slots : Slots) (text : Text) (group : Nat) : Prop :=
  ∀ start stop, slots.get? (2 * group) = some start → slots.get? (2 * group + 1) = some stop →
    ∃ part, text.slice? start stop = some part

/-- The ends of a group are the same in both records. -/
def Agree (slots others : Slots) (group : Nat) : Prop :=
  others.get? (2 * group) = slots.get? (2 * group) ∧
    others.get? (2 * group + 1) = slots.get? (2 * group + 1)

theorem Agree.refl (slots : Slots) (group : Nat) : slots.Agree slots group := ⟨rfl,rfl⟩

theorem Agree.trans {a b c : Slots} (first : a.Agree b group) (second : b.Agree c group) :
    a.Agree c group := ⟨second.1.trans first.1,second.2.trans first.2⟩

theorem Whole.of_agree {others : Slots} {text : Text} (whole : slots.Whole text group)
    (agree : slots.Agree others group) : others.Whole text group := by
  rw [Whole,agree.1,agree.2]
  exact whole

theorem agree_set (apart : group ≠ other) : slots.Agree (slots.set (2 * other) offset) group :=
  ⟨get?_set_of_ne (by omega),get?_set_of_ne (by omega)⟩

theorem agree_set_end (apart : group ≠ other) :
    slots.Agree (slots.set (2 * other + 1) offset) group :=
  ⟨get?_set_of_ne (by omega),get?_set_of_ne (by omega)⟩

/-- A group that ends at a boundary, and not before its start, has a text between its ends. -/
theorem whole_set_end {text : Text} {start : Nat} (isStart : slots.get? (2 * group) = some start)
    (first : text.IsBoundary start) (last : text.IsBoundary offset) (le : start ≤ offset) :
    (slots.set (2 * group + 1) offset).Whole text group := by
  intro start' stop isStart' isStop
  rw [get?_set_of_ne (by omega),isStart] at isStart'
  rw [get?_set_self] at isStop
  cases isStart'
  cases isStop
  exact first.slice? last le

theorem get?_clear (slots : Slots) (group slot : Nat) :
    (slots.clear group).get? slot =
      if slot = 2 * group ∨ slot = 2 * group + 1 then none else slots.get? slot := by
  rw [get?,clear,lookup_filter fun key => key != 2 * group && key != 2 * group + 1]
  by_cases first : slot = 2 * group
  · simp [first]
  · by_cases last : slot = 2 * group + 1 <;> simp [first,last,get?]

theorem agree_clearAll {groups : List Nat} (other : group ∉ groups) :
    slots.Agree (groups.foldl clear slots) group := by
  induction groups generalizing slots with
  | nil => exact .refl _ _
  | cons first rest ih =>
    simp only [List.mem_cons,not_or] at other
    have here : slots.Agree (slots.clear first) group := by
      constructor <;> rw [get?_clear,if_neg] <;> omega
    exact here.trans (ih other.2)

theorem clearAll_start {groups : List Nat} (member : group ∈ groups) :
    (groups.foldl clear slots).get? (2 * group) = none := by
  induction groups generalizing slots with
  | nil => contradiction
  | cons first rest ih =>
    by_cases later : group ∈ rest
    · exact ih later
    · obtain rfl : group = first := by simpa [later] using member
      rw [List.foldl_cons,(agree_clearAll later).1,get?_clear,if_pos (.inl rfl)]

end Slots

namespace Regular

/-- The record of a run in a text: open groups have begun, closed ones have a text between their
ends, and groups that do not belong to the expression are as they were `before`. -/
structure Recorded (text : Text) (before : Slots) (groups opened : List Nat) (r : Reached) :
    Prop where
  inText : r.place.text = text
  begun : ∀ i ∈ opened, ∃ start, r.slots.get? (2 * i) = some start ∧ text.IsBoundary start ∧
    start ≤ r.offset
  whole : ∀ i ∈ groups, i ∉ opened → r.slots.Whole text i
  others : ∀ i, i ∉ groups → before.Agree r.slots i

theorem kept_recorded (text : Text) (before : Slots) (groups : List Nat) :
    Kept groups (Recorded text before groups) := by
  refine ⟨?_,?_,?_⟩
  · intro opened r ch place recorded step
    have onward := Cursor.next?_onward step
    refine ⟨onward.text.trans recorded.inText,fun i isOpen => ?_,recorded.whole,recorded.others⟩
    obtain ⟨start,isStart,boundary,le⟩ := recorded.begun i isOpen
    exact ⟨start,isStart,boundary,Nat.le_trans le onward.offset⟩
  · intro opened r i member recorded
    have here := r.place.isBoundary
    rw [recorded.inText] at here
    refine ⟨recorded.inText,fun j isOpen => ?_,fun j isGroup closed => ?_,fun j other => ?_⟩
    · by_cases same : j = i
      · subst same
        exact ⟨r.offset,Slots.get?_set_self,here,Nat.le_refl _⟩
      · obtain ⟨start,isStart,boundary,le⟩ := recorded.begun j (by simpa [same] using isOpen)
        exact ⟨start,(Slots.agree_set same).1.trans isStart,boundary,le⟩
    · simp only [List.mem_cons,not_or] at closed
      exact (recorded.whole j isGroup closed.2).of_agree (Slots.agree_set closed.1)
    · exact (recorded.others j other).trans
        (Slots.agree_set fun same => other (same ▸ member))
  · intro opened r i member recorded
    have here := r.place.isBoundary
    rw [recorded.inText] at here
    refine ⟨recorded.inText,fun j isOpen => ?_,fun j isGroup closed => ?_,fun j other => ?_⟩
    · obtain ⟨start,isStart,boundary,le⟩ := recorded.begun j (by simp [isOpen])
      exact ⟨start,(Slots.get?_set_of_ne (by omega)).trans isStart,boundary,le⟩
    · by_cases same : j = i
      -- The group that ends here began at a boundary that is not behind this place.
      · subst same
        obtain ⟨start,isStart,boundary,le⟩ := recorded.begun j (by simp)
        exact Slots.whole_set_end isStart boundary here le
      · exact (recorded.whole j isGroup (by simp [same,closed])).of_agree
          (Slots.agree_set_end same)
    · exact (recorded.others j other).trans
        (Slots.agree_set_end fun same => other (same ▸ member))

theorem matchFrom?_recorded {e : Regular} {places : Nat} {place : Cursor} {slots : Slots}
    {u : Reached} (found : e.matchFrom? places ⟨place,e.groups.foldl Slots.clear slots⟩ = some u) :
    (∀ i ∈ e.groups, u.slots.Whole place.text i) ∧ ∀ i, i ∉ e.groups → slots.Agree u.slots i := by
  have start : Recorded place.text slots e.groups []
      ⟨place,e.groups.foldl Slots.clear slots⟩ := by
    refine ⟨rfl,by simp,fun i member _ first last isFirst => ?_,fun i => Slots.agree_clearAll⟩
    rw [Slots.clearAll_start member] at isFirst
    contradiction
  have recorded := run_keeps (kept_recorded place.text slots e.groups) _ e (List.Subset.refl _) 0 []
    Next.accept_keeps _ _ u start found
  exact ⟨fun i member => recorded.whole i member (by simp),recorded.others⟩

end Regular

namespace Program

/-- Whether a reference stands inside the group that it refers to, or a group inside itself;
`opened` are the groups around the program. -/
def refersInside (opened : List Nat) : Program → Bool
  | nothing | groupSet _ | keepOut | searchStart => false
  | regular e => e.groups.any opened.contains
  | group index body => opened.contains index || body.refersInside (index :: opened)
  | seq first second | alt first second =>
    first.refersInside opened || second.refersInside opened
  | optional body _ | many body _ _ _ _ | around _ body | notAround _ body | atomic body =>
    body.refersInside opened
  | cond condition yes no =>
    condition.refersInside opened || yes.refersInside opened || no.refersInside opened
  | backref index => opened.contains index

/-- All groups that are not open have a text between their ends. -/
def Closed (text : Text) (opened : List Nat) (m : Match) : Prop :=
  m.place.text = text ∧ ∀ i, i ∉ opened → m.slots.Whole text i

variable {g : Ground} {p : Program} {r u : Match} {opened : List Nat}

theorem Closed.begin {index : Nat} (closed : Closed g.text opened r) :
    Closed g.text (index :: opened) { r with toReached := r.toReached.setSlot (2 * index) } := by
  refine ⟨closed.1,fun i other => ?_⟩
  simp only [List.mem_cons,not_or] at other
  exact (closed.2 i other.2).of_agree (Slots.agree_set other.1)

theorem agree_trans {v : Match} (first : ∀ i ∈ opened, r.slots.Agree u.slots i)
    (second : ∀ i ∈ opened, u.slots.Agree v.slots i) : ∀ i ∈ opened, r.slots.Agree v.slots i :=
  fun i isOpen => (first i isOpen).trans (second i isOpen)

theorem Closed.back {back : Nat} {place : Cursor} (closed : Closed g.text opened r)
    (step : r.place.back? back = some place) : Closed g.text opened { r with place } :=
  ⟨(Cursor.back?_text step).trans closed.1,closed.2⟩

/-- A program closes the groups that it opens, and leaves those that are open around it. -/
theorem Leads.closed (leads : Leads g p r u) (free : p.refersInside opened = false)
    (closed : Closed g.text opened r) :
    Closed g.text opened u ∧ ∀ i ∈ opened, r.slots.Agree u.slots i := by
  induction leads generalizing opened with
  | nothing | never | manyDone | notAround | groupSet | keepOut | searchStart =>
    exact ⟨closed,fun i _ => .refl _ i⟩
  | @regular e r u found =>
    obtain ⟨own,others⟩ := Regular.matchFrom?_recorded found
    rw [closed.1] at own
    refine ⟨⟨(Regular.matchFrom?_onward found).text.trans closed.1,fun i isClosed => ?_⟩,?_⟩
    · by_cases member : i ∈ e.groups
      · exact own i member
      · exact (closed.2 i isClosed).of_agree (others i member)
    · intro i isOpen
      refine others i fun member => ?_
      simp only [refersInside,List.any_eq_false,List.contains_iff_mem] at free
      exact free i member isOpen
  | @group index body r u leads ih =>
    simp only [refersInside,Bool.or_eq_false_iff,List.contains_eq_mem,decide_eq_false_iff_not]
      at free
    obtain ⟨⟨text,inside⟩,same⟩ := ih free.2 closed.begin
    have onward := leads.onward
    refine ⟨⟨text,fun i isClosed => ?_⟩,fun i isOpen => ?_⟩
    · by_cases isOwn : i = index
      -- The body has left the start of the group, which is where it began.
      · subst isOwn
        have begins := r.place.isBoundary
        have ends := u.place.isBoundary
        rw [closed.1] at begins
        rw [text] at ends
        have isStart := (same i (by simp)).1.trans Slots.get?_set_self
        exact Slots.whole_set_end isStart begins ends onward.offset
      · exact (inside i (by simp [isOwn,isClosed])).of_agree (Slots.agree_set_end isOwn)
    · have apart : i ≠ index := fun same => free.1 (same ▸ isOpen)
      exact (Slots.agree_set apart).trans
        ((same i (List.mem_cons_of_mem _ isOpen)).trans (Slots.agree_set_end apart))
  | seq _ _ ih ih' =>
    simp only [refersInside,Bool.or_eq_false_iff] at free
    obtain ⟨closed,same⟩ := ih free.1 closed
    obtain ⟨closed,same'⟩ := ih' free.2 closed
    exact ⟨closed,agree_trans same same'⟩
  | manyMore _ _ _ ih ih' =>
    obtain ⟨closed,same⟩ := ih free closed
    obtain ⟨closed,same'⟩ := ih' free closed
    exact ⟨closed,agree_trans same same'⟩
  | condYes _ _ ih ih' =>
    simp only [refersInside,Bool.or_eq_false_iff] at free
    obtain ⟨closed,same⟩ := ih free.1.1 closed
    obtain ⟨closed,same'⟩ := ih' free.1.2 closed
    exact ⟨closed,agree_trans same same'⟩
  | altFirst _ ih | altSecond _ ih | condNo _ ih =>
    simp only [refersInside,Bool.or_eq_false_iff] at free
    exact ih (by simp [free]) closed
  | once _ ih | atomic _ ih => exact ih free closed
  | around step _ ih =>
    obtain ⟨⟨_,inside⟩,same⟩ := ih free (closed.back step)
    exact ⟨⟨closed.1,inside⟩,same⟩
  | backref _ _ _ moved =>
    exact ⟨⟨(Cursor.advanceOver?_onward moved).text.trans closed.1,closed.2⟩,fun i _ => .refl _ i⟩

/-- A program without a reference inside its own group does not break. -/
theorem Breaks.refersInside (breaks : Breaks g p r) (closed : Closed g.text opened r) :
    p.refersInside opened = true := by
  by_contra free
  rw [Bool.not_eq_true] at free
  induction breaks generalizing opened with
  | group _ ih =>
    simp only [Program.refersInside,Bool.or_eq_false_iff] at free
    exact ih closed.begin free.2
  | seqFirst _ ih | altFirst _ ih | altSecond _ ih | condition _ ih | condNo _ ih =>
    simp only [Program.refersInside,Bool.or_eq_false_iff] at free
    exact ih closed (by simp [free])
  | seqSecond leads _ ih | condYes leads _ ih =>
    simp only [Program.refersInside,Bool.or_eq_false_iff] at free
    exact ih (leads.closed (by simp [free]) closed).1 (by simp [free])
  | optional _ ih | manyFirst _ ih | atomic _ ih => exact ih closed free
  | manyMore leads _ ih => exact ih (leads.closed free closed).1 free
  | around step _ ih | notAround step _ ih => exact ih (closed.back step) free
  | @backref index r start stop isStart isStop broken =>
    obtain ⟨part,isPart⟩ := closed.2 index
      (by simpa [Program.refersInside] using free) start stop isStart isStop
    rw [broken] at isPart
    contradiction

theorem initial_closed (place : Cursor) : Closed place.text [] (State.initial place).toMatch := by
  refine ⟨rfl,fun i _ start stop _ isStop => ?_⟩
  simp [State.initial,Slots.get?] at isStop

/-- A search has an answer, unless a reference stands inside the group that it refers to. -/
theorem search_ne_error {place : Cursor} (free : p.refersInside [] = false) (fault : SearchFault) :
    p.search place ≠ .error fault := by
  intro failed
  obtain ⟨first,onward,broken⟩ := searchFrom_broken failed
  have closed := initial_closed first
  rw [onward.text] at closed
  rw [broken.refersInside closed] at free
  contradiction

end Program

end Highlighting.Pattern
