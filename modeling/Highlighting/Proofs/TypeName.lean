import Highlighting.Proofs.AustralRules
import Highlighting.Proofs.Denotation

/-! The type names of Austral as runs of the characters of identifiers. The look-behind of the
pattern keeps a match from beginning inside a run, and its repetition takes the rest of the run. -/
namespace Highlighting.Austral

open Text Pattern Pattern.Program

variable {g : Ground} {answer answer' : Match → Option Match} {m : Match}

def FollowsOther (before : Text) : Prop := ∃ c, before.getLast? = some c ∧ isIdentifier c = false

theorem best_afterOther :
    best g afterOther answer m =
      if m.place.before.head?.any (!isIdentifier ·) then answer m else none := by
  obtain ⟨⟨⟨before,after,offset,size⟩,slots⟩,start⟩ := m
  cases before with
  | nil => simp [afterOther,best,ways,Cursor.back?,Cursor.previous?]
  | cons ch before =>
    have step : Cursor.back? 1 ⟨ch :: before,after,offset,size⟩ =
        some ⟨before,ch :: after,offset - ch.utf8Size,by simp [size]⟩ := rfl
    rw [afterOther,best_around step,best_one]
    simp [Cursor.next?,CharSet.contains]

/-- A look-behind asks for the character before a part and leaves the part as it is. -/
theorem takes_afterOther {part : Text.Property} (takes : Takes part answer m (answer' m)) :
    Takes (fun before inside after => FollowsOther before ∧ part before inside after) answer m
      (best g afterOther answer' m) := by
  have follows : FollowsOther m.place.before.reverse ↔
      m.place.before.head?.any (!isIdentifier ·) := by
    cases m.place.before <;> simp [FollowsOther]
  rw [best_afterOther]
  by_cases other : m.place.before.head?.any (!isIdentifier ·)
  · rw [if_pos other]
    cases found : answer' m with
    | none =>
      rw [found] at takes
      exact fun w d reads holds => takes w d reads holds.2
    | some u =>
      rw [found] at takes
      obtain ⟨w,d,reads,holds,answered⟩ := takes
      exact ⟨w,d,reads,⟨follows.mpr other,holds⟩,answered⟩
  · rw [if_neg other]
    exact fun w d reads holds => other (follows.mp holds.1)

structure IsRun (before run after : Text) : Prop where
  within : ∀ c ∈ run, isIdentifier c
  before : ∀ c, before.getLast? = some c → isIdentifier c = false
  after : ∀ c, after.head? = some c → isIdentifier c = false

/-- A run that does not begin the text and begins with a capital. -/
def TypeNamePart : Text.Property := fun before run after =>
  IsRun before run after ∧ before ≠ [] ∧ run.head?.any isCapital

theorem typeNamePart_iff (before run after : Text) :
    (FollowsOther before ∧ (∀ c ∈ run, isIdentifier c) ∧ run.head?.any isCapital ∧
      ∀ c, after.head? = some c → isIdentifier c = false) ↔ TypeNamePart before run after := by
  constructor
  · rintro ⟨⟨last,isLast,other⟩,within,capital,ends⟩
    refine ⟨⟨within,by simpa [isLast] using other,ends⟩,?_,capital⟩
    rintro rfl
    simp at isLast
  · rintro ⟨isRun,nonempty,capital⟩
    have last := List.getLast?_eq_some_getLast nonempty
    exact ⟨⟨_,last,isRun.before _ last⟩,isRun.within,capital,isRun.after⟩

theorem isIdentifier_of_isCapital {c : Char} (capital : isCapital c) : isIdentifier c := by
  simp [isIdentifier,capital]

/-- A capital and as many further characters of an identifier as there are. -/
theorem takes_run (room : m.place.after.length < g.places) :
    Takes (fun _ run after => (∀ c ∈ run, isIdentifier c) ∧ run.head?.any isCapital ∧
        ∀ c, after.head? = some c → isIdentifier c = false) some m
      (best g (.regular (.one capitalSet))
        (best g (.many (.regular (.one identifierSet)) 0 none true false) some) m) := by
  have longest {next : Cursor} (onward : m.place.Onward next) :=
    @best_star_one g some { m with place := next } identifierSet
      (Nat.lt_of_le_of_lt onward.length_le room)
  simp only [identifierSet_contains,Longest] at longest
  cases found : best g (.regular (.one capitalSet))
      (best g (.many (.regular (.one identifierSet)) 0 none true false) some) m with
  | some u =>
    obtain ⟨ch,next,capital,first,rest⟩ := best_one_eq_some.mp found
    have here := longest first.onward
    rw [rest] at here
    obtain ⟨w,d,within,reads,answered,least⟩ := here
    refine ⟨ch :: w,d,Cursor.reads_cons.mpr ⟨_,first,reads⟩,⟨?_,by simpa using capital,?_⟩,answered⟩
    · simpa using ⟨isIdentifier_of_isCapital capital,within⟩
    · -- A further character would have been taken, too.
      intro c isHead
      by_contra belongs
      obtain ⟨_,follows⟩ := List.head?_eq_some_iff.mp isHead
      obtain ⟨d',further,_⟩ := Cursor.exists_reads (show d.after = [c] ++ _ from follows)
      have longer := least (w ++ [c]) d'
        (by simpa [or_imp,forall_and] using ⟨within,by simpa using belongs⟩)
        (Cursor.reads_append.mpr ⟨d,reads,further⟩) (by simp)
      contradiction
  | none =>
    rintro (_ | ⟨ch,w⟩) d reads ⟨within,capital,_⟩
    · simp at capital
    · obtain ⟨next,first,reads⟩ := Cursor.reads_cons.mp reads
      have here := longest first.onward
      split at here
      · next none => simpa using here w d (fun c member => within c (by simp [member])) reads
      · next u some =>
        have member : capitalSet.contains ch := by simpa using capital
        rw [best_one_eq_some.mpr ⟨ch,next,member,first,some⟩] at found
        contradiction

theorem typeName_denotes : typeNameProgram.Denotes TypeNamePart := by
  refine denotes_of_takes fun g c room => ?_
  rw [preferred,← best_some,typeNameProgram]
  simp only [best_seq,best_nothing]
  exact (takes_afterOther (takes_run room)).congr typeNamePart_iff

theorem IsRun.takeWhile_eq {before run after : Text} (isRun : IsRun before run after) :
    (run ++ after).takeWhile isIdentifier = run := by
  rw [List.takeWhile_append_of_pos isRun.within]
  cases after with
  | nil => simp
  | cons c after => simp [isRun.after c rfl]

theorem typeNamePart_unique : TypeNamePart.Unique := by
  rintro before run after run' after' ⟨isRun,_⟩ ⟨isRun',_⟩ same
  rw [← isRun.takeWhile_eq,same,isRun'.takeWhile_eq]

theorem typeName_nonempty {text : Text} {m : Span} (occurs : Occurs TypeNamePart text m) :
    m.start < m.stop := by
  obtain ⟨before,run,after,_,⟨_,_,capital⟩,rfl⟩ := occurs
  cases run with
  | nil => simp at capital
  | cons c run =>
    have positive := c.utf8Size_pos
    simp only [bytes_cons]
    omega

/-- Runs of one text do not overlap. -/
theorem typeNames_cover (text : Text) :
    Covers (Occurs TypeNamePart text) (Occurs TypeNamePart text) where
  isHit m occurs := occurs
  nonempty m occurs := typeName_nonempty occurs
  apart := by
    rintro _ _ ⟨before,run,after,same,⟨isRun,_⟩,rfl⟩ ⟨before',run',after',same',⟨isRun',_⟩,rfl⟩ less
    obtain ⟨between,rfl,rest⟩ := exists_between (same.symm.trans same') (Nat.le_of_lt less)
    simp only at less ⊢
    rcases List.append_eq_append_iff.mp rest with ⟨more,rfl,_⟩ | ⟨more,rfl,_⟩
    · simp
    · -- The second run would begin inside the first one.
      cases isLast : between.getLast? with
      | none =>
        rw [List.getLast?_eq_none_iff.mp isLast] at less
        simp at less
      | some c =>
        have within := isRun.within c (by simp [List.mem_of_getLast? isLast])
        have other := isRun'.before c (by simp [isLast])
        simp [within] at other
  cover h occurs := ⟨h,occurs,Nat.le_refl _,typeName_nonempty occurs⟩

/-- The rule for type names matches the runs that begin with a capital, apart from one at the start
of the text. -/
theorem typeName_findAll [Libraries] (palette : Palette) (text : Text)
    (lasts : ∀ rule, ruleNamed? palette "type_name".toList = some rule → rule.pattern.Lasts text) :
    ∃ rule spans, ruleNamed? palette "type_name".toList = some rule ∧
      rule.pattern.findAll text = .ok spans ∧ (∀ m, m ∈ spans ↔ Occurs TypeNamePart text m) ∧
      spans.Pairwise fun a b => a.stop ≤ b.start := by
  have named : ruleNamed? palette "type_name".toList =
      some ⟨"type_name".toList,typeNamePattern,palette.typeName⟩ := by rw [ruleNamed?_eq]; rfl
  have denotes : typeNamePattern.Denotes TypeNamePart := ⟨rfl,typeName_denotes⟩
  obtain ⟨spans,found⟩ := findAll_of_denotes denotes typeNamePart_unique (lasts _ named)
    (typeNames_cover text)
  exact ⟨_,spans,named,found⟩

/-- Two type names, one of them behind a letter that is not ASCII, and runs that are none. -/
theorem typeName_findAll_mixed :
    (∀ rule, ruleNamed? .standard "type_name".toList = some rule →
      rule.pattern.Lasts "A bC Map_1\néInt9".toList) ∧
    ∃ rule spans, ruleNamed? .standard "type_name".toList = some rule ∧
      rule.pattern.findAll "A bC Map_1\néInt9".toList = .ok spans ∧
      (∀ m, m ∈ spans ↔ Occurs TypeNamePart "A bC Map_1\néInt9".toList m) ∧
      spans.Pairwise fun a b => a.stop ≤ b.start := by
  have lasts : ∀ rule, ruleNamed? .standard "type_name".toList = some rule →
      rule.pattern.Lasts "A bC Map_1\néInt9".toList := by
    intro rule named
    rw [ruleNamed?_eq] at named
    cases named
    exact lasts_of_forall (by decide +kernel)
  exact ⟨lasts,typeName_findAll .standard "A bC Map_1\néInt9".toList lasts⟩

end Highlighting.Austral
