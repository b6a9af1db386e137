import Highlighting.Proofs.TypeName

/-! The literals of Austral, line by line: all from the first to the last quotation mark of a line,
and single digits outside of that. A line with one quotation mark has no string, so that digits
behind the mark count. -/
namespace Highlighting

namespace Text

/-- From the first quotation mark of a line to the last one, if there are two. -/
def Line.string? (line : Line) : Option Span := do
  let (before,behind) ← splitOnce? '"' line.content
  let (after,_) ← splitOnce? '"' behind.reverse
  some ⟨line.start + before.bytes,line.start + (line.content.bytes - after.bytes)⟩

theorem Line.string?_eq_some {line : Line} {m : Span} :
    line.string? = some m ↔ ∃ before inside after,
      line.content = before ++ '"' :: (inside ++ '"' :: after) ∧ '"' ∉ before ∧ '"' ∉ after ∧
        m = ⟨line.start + before.bytes,line.start + (before ++ '"' :: (inside ++ ['"'])).bytes⟩ := by
  simp only [string?,Option.bind_eq_bind,Option.bind_eq_some_iff,Prod.exists,splitOnce?_eq_some]
  constructor
  · rintro ⟨before,behind,⟨content,notBefore⟩,after,inside,⟨same,notAfter⟩,isSpan⟩
    have equal : behind = inside.reverse ++ '"' :: after.reverse := by
      simpa using congrArg List.reverse same
    subst equal
    refine ⟨before,inside.reverse,after.reverse,content,notBefore,by simpa using notAfter,?_⟩
    rw [← Option.some.inj isSpan,content]
    simp only [bytes_append,bytes_cons,bytes_nil,bytes_reverse,Span.mk.injEq,true_and]
    omega
  · rintro ⟨before,inside,after,content,notBefore,notAfter,rfl⟩
    refine ⟨before,_,⟨content,notBefore⟩,after.reverse,inside.reverse,
      ⟨by simp,by simpa using notAfter⟩,?_⟩
    simp only [content,bytes_append,bytes_cons,bytes_nil,bytes_reverse,Option.some.injEq,
      Span.mk.injEq,true_and]
    omega

theorem bytes_le_of_notMem {mark : Char} {a b p q : Text} (same : a ++ b = p ++ mark :: q)
    (absent : mark ∉ a) : a.bytes ≤ p.bytes := by
  rcases List.append_eq_append_iff.mp same with ⟨more,rfl,_⟩ | ⟨_ | ⟨c,more⟩,rfl,tail⟩
  · simp
  · simp
  · obtain ⟨rfl,_⟩ := List.cons.inj tail
    simp at absent

theorem lt_bytes_of_notMem {mark : Char} {a b p q : Text} (same : a ++ b = p ++ mark :: q)
    (absent : mark ∉ b) : p.bytes < a.bytes := by
  rcases List.append_eq_append_iff.mp same with ⟨more,rfl,rfl⟩ | ⟨_ | ⟨c,more⟩,rfl,tail⟩
  · simp at absent
  · rw [← List.nil_append b,← tail] at absent
    simp at absent
  · have positive := c.utf8Size_pos
    simp only [bytes_append,bytes_cons]
    omega

/-- Where a line has two quotation marks, its string reaches from the first mark or before to the
second one or behind. -/
theorem Line.exists_string {line : Line} {before inside after : Text}
    (content : line.content = before ++ '"' :: (inside ++ '"' :: after)) :
    ∃ m, line.string? = some m ∧ m.start ≤ line.start + before.bytes ∧
      line.start + before.bytes < m.stop := by
  obtain ⟨first,behind,same,notBefore⟩ :=
    List.eq_append_cons_of_mem (show '"' ∈ line.content by simp [content])
  have again : '"' ∈ behind.reverse := by
    have count := congrArg (List.count '"') (content.symm.trans same)
    simp only [List.count_append,List.count_cons,beq_self_eq_true,if_true,
      List.count_eq_zero_of_not_mem notBefore] at count
    exact List.mem_reverse.mpr (List.count_pos_iff.mp (by omega))
  obtain ⟨last,inner,reversed,notAfter⟩ := List.eq_append_cons_of_mem again
  have equal : behind = inner.reverse ++ '"' :: last.reverse := by
    simpa using congrArg List.reverse reversed
  subst equal
  refine ⟨_,Line.string?_eq_some.mpr
    ⟨first,inner.reverse,last.reverse,same,notBefore,by simpa using notAfter,rfl⟩,?_,?_⟩
  · have := bytes_le_of_notMem (same.symm.trans content) notBefore
    simpa using this
  · have whole : (first ++ '"' :: (inner.reverse ++ ['"'])) ++ last.reverse =
        before ++ '"' :: (inside ++ '"' :: after) := by
      rw [← content,same]
      simp
    have := lt_bytes_of_notMem whole (by simpa using notAfter)
    simp only
    omega

/-- The strings of a text, of which each line has at most one. -/
def strings (text : Text) : List Span := (Line.all text).filterMap Line.string?

theorem Line.string?_onLine : Line.OnLine Line.string? := by
  intro line m isString
  obtain ⟨before,inside,after,content,_,_,rfl⟩ := Line.string?_eq_some.mp isString
  have positive := Char.utf8Size_pos '"'
  simp only [Line.stop,content,bytes_append,bytes_cons,bytes_nil]
  omega

end Text

namespace Austral

open Text Pattern Pattern.Program

def StringPart : Text.Property := fun _ inside after =>
  ∃ body, (∀ c ∈ body, endsLine c = false) ∧ inside = '"' :: (body ++ ['"']) ∧
    '"' ∉ after.takeWhile (!endsLine ·)

def DigitPart : Text.Property := fun before inside _ =>
  FollowsOther before ∧ ∃ c, isDigit c ∧ inside = [c]

def LiteralPart : Text.Property := fun before inside after =>
  StringPart before inside after ∨ DigitPart before inside after

variable {g : Ground} {answer : Match → Option Match} {m : Match}

theorem best_quote_eq_some {u : Match} :
    best g quote answer m = some u ↔
      ∃ d, m.place.Reads ['"'] d ∧ answer { m with place := d } = some u := by
  simp [quote,best_one_eq_some,CharSet.contains]

theorem best_quote_ne_none (total : ∀ u, (answer u).isSome) {d : Cursor}
    (reads : m.place.Reads ['"'] d) : best g quote answer m ≠ none := by
  obtain ⟨u,answered⟩ := Option.isSome_iff_exists.mp (total { m with place := d })
  rw [best_quote_eq_some.mpr ⟨d,reads,answered⟩]
  simp

/-- A mark, characters of its line and another mark, with as many characters as there can be. -/
theorem takes_string (total : ∀ u, (answer u).isSome) (room : m.place.after.length < g.places) :
    Takes StringPart answer m (best g quote
      (best g (.many (.regular (.one withinLineSet)) 0 none true false) (best g quote answer)) m) := by
  have longest {next : Cursor} (reads : m.place.Reads ['"'] next) :=
    @best_star_one g (best g quote answer) { m with place := next } withinLineSet
      (Nat.lt_of_le_of_lt reads.onward.length_le room)
  simp only [withinLineSet_contains,Longest,Bool.not_eq_true'] at longest
  cases found : best g quote (best g (.many (.regular (.one withinLineSet)) 0 none true false)
      (best g quote answer)) m with
  | some u =>
    obtain ⟨next,mark,inner⟩ := best_quote_eq_some.mp found
    have here := longest mark
    rw [inner] at here
    obtain ⟨body,d,within,reads,closing,least⟩ := here
    obtain ⟨last,mark',answered⟩ := best_quote_eq_some.mp closing
    have taken := Cursor.reads_cons.mpr ⟨_,mark,Cursor.reads_append.mpr ⟨_,reads,mark'⟩⟩
    refine ⟨'"' :: (body ++ ['"']),last,taken,⟨body,within,rfl,fun further => ?_⟩,answered⟩
    -- With a further mark on the line more characters could have been taken.
    obtain ⟨more,rest,same⟩ := List.append_of_mem further
    have onLine : ∀ c ∈ more, endsLine c = false := by
      have all := @List.all_takeWhile _ (!endsLine ·) last.after
      rw [same] at all
      intro c member
      simpa using List.all_eq_true.mp all c (by simp [member])
    have follows : last.after = more ++ ('"' :: (rest ++ last.after.dropWhile (!endsLine ·))) := by
      rw [← List.cons_append,← List.append_assoc,← same,List.takeWhile_append_dropWhile]
    obtain ⟨e,reads',follows'⟩ := Cursor.exists_reads follows
    obtain ⟨e',mark'',_⟩ := Cursor.exists_reads (show e.after = ['"'] ++ _ from follows')
    refine best_quote_ne_none total mark'' (least (body ++ '"' :: more) e ?_ ?_ ?_)
    · simpa [or_imp,forall_and] using ⟨within,by decide,onLine⟩
    · exact Cursor.reads_append.mpr ⟨d,reads,Cursor.reads_cons.mpr ⟨last,mark',reads'⟩⟩
    · simp
  | none =>
    rintro _ d reads ⟨body,within,rfl,_⟩
    obtain ⟨next,mark,reads⟩ := Cursor.reads_cons.mp reads
    obtain ⟨e,reads,mark'⟩ := Cursor.reads_append.mp reads
    have here := longest mark
    split at here
    · next none => exact best_quote_ne_none total mark' (here body e within reads)
    · next u some =>
      rw [best_quote_eq_some.mpr ⟨next,mark,some⟩] at found
      contradiction

theorem takes_digit (total : ∀ u, (answer u).isSome) :
    Takes (fun _ inside _ => ∃ c, isDigit c ∧ inside = [c]) answer m
      (best g (.regular (.one digitSet)) answer m) := by
  cases found : best g (.regular (.one digitSet)) answer m with
  | some u =>
    obtain ⟨c,d,digit,reads,answered⟩ := best_one_eq_some.mp found
    exact ⟨[c],d,reads,⟨c,digit,rfl⟩,answered⟩
  | none =>
    rintro _ d reads ⟨c,digit,rfl⟩
    obtain ⟨u,answered⟩ := Option.isSome_iff_exists.mp (total { m with place := d })
    have member : digitSet.contains c := digit
    rw [best_one_eq_some.mpr ⟨c,d,member,reads,answered⟩] at found
    contradiction

theorem literal_denotes : literalProgram.Denotes LiteralPart := by
  intro g c room
  rw [preferred,← best_some,literalProgram,best_group]
  simp only [best_alt,best_seq,best_nothing]
  set opened : Match := { (State.initial c).toMatch with
    toReached := (State.initial c).toReached.setSlot (2 * 1) }
  set close : Match → Option Match := fun u =>
    some { u with toReached := u.toReached.setSlot (2 * 1 + 1) }
  have total (u : Match) : (close u).isSome := rfl
  have string := @takes_string g close opened total room
  have digit := @takes_afterOther g close _ opened _ (@takes_digit g close opened total)
  have takes := takes_or string digit
  split
  · next none =>
    rw [none] at takes
    exact takes
  · next u some =>
    rw [some] at takes
    obtain ⟨w,d,reads,holds,answered⟩ := takes
    cases answered
    exact ⟨rfl,w,reads,holds⟩

theorem stringPart_unique : StringPart.Unique := by
  have longer {body body' after after' : Text} (within : ∀ c ∈ body', endsLine c = false)
      (last : '"' ∉ after.takeWhile (!endsLine ·))
      (same : body ++ '"' :: after = body' ++ '"' :: after') : body'.length ≤ body.length := by
    rcases List.append_eq_append_iff.mp same with ⟨_ | ⟨c,more⟩,rfl,tail⟩ | ⟨more,rfl,_⟩
    · simp
    · obtain ⟨rfl,follows⟩ := List.cons.inj tail
      have onLine : ∀ c ∈ more, (!endsLine c) = true :=
        fun c member => by simpa using within c (by simp [member])
      rw [show after = more ++ '"' :: after' from follows,List.takeWhile_append_of_pos onLine,
        List.takeWhile_cons_of_pos (by decide)] at last
      simp at last
    · simp
  rintro before _ after _ after' ⟨body,within,rfl,last⟩ ⟨body',within',rfl,last'⟩ same
  have equal : body ++ '"' :: after = body' ++ '"' :: after' := by simpa using same
  have size := Nat.le_antisymm (longer within last' equal.symm) (longer within' last equal)
  rw [(List.append_inj equal size).1]

theorem literalPart_unique : LiteralPart.Unique := by
  have notDigit : isDigit '"' = false := by decide
  rintro before inside after inside' after' (string | digit) (string' | digit') same
  · exact stringPart_unique before inside after inside' after' string string' same
  · obtain ⟨body,_,rfl,_⟩ := string
    obtain ⟨_,c,digit,rfl⟩ := digit'
    obtain ⟨rfl,_⟩ := List.cons.inj same
    simp [notDigit] at digit
  · obtain ⟨body,_,rfl,_⟩ := string'
    obtain ⟨_,c,digit,rfl⟩ := digit
    obtain ⟨rfl,_⟩ := List.cons.inj same
    simp [notDigit] at digit
  · obtain ⟨_,c,_,rfl⟩ := digit
    obtain ⟨_,c',_,rfl⟩ := digit'
    rw [(List.cons.inj same).1]

/-- The literals of a text: its strings, and the digits outside of them. -/
def IsLiteral (text : Text) (m : Span) : Prop :=
  m ∈ strings text ∨
    Occurs DigitPart text m ∧ ∀ s ∈ strings text, m.start < s.start ∨ s.stop ≤ m.start

theorem digit_stop {text : Text} {m : Span} (occurs : Occurs DigitPart text m) :
    m.stop = m.start + 1 := by
  obtain ⟨before,_,after,_,⟨_,c,digit,rfl⟩,rfl⟩ := occurs
  have one : c.utf8Size = 1 := by
    simp only [isDigit,Bool.and_eq_true,decide_eq_true_eq] at digit
    have le : c.val ≤ 57 := digit.2
    exact Char.utf8Size_eq_one_iff.mpr (Nat.le_trans le (by decide))
  simp [one]

theorem string_occurs {text : Text} {m : Span} (member : m ∈ strings text) :
    Occurs StringPart text m := by
  obtain ⟨line,inText,isString⟩ := List.mem_filterMap.mp member
  obtain ⟨before,inside,after,content,_,notAfter,rfl⟩ := Line.string?_eq_some.mp isString
  obtain ⟨done,rest,lies⟩ := Line.lies_of_mem inText
  have onLine : ∀ c ∈ after, (!endsLine c) = true :=
    fun c member => by simpa using lies.content c (by simp [content,member])
  refine ⟨done ++ before,'"' :: (inside ++ ['"']),after ++ (line.ending.toList ++ rest),?_,
    ⟨inside,fun c member => lies.content c (by simp [content,member]),rfl,?_⟩,?_⟩
  · rw [lies.text,content]
    simp
  · rw [List.takeWhile_append_of_pos onLine]
    cases isEnding : line.ending with
    | none => simpa [lies.last isEnding] using notAfter
    | some e => simpa [lies.ending e isEnding] using notAfter
  · simp [lies.start,Nat.add_assoc]

/-- Wherever a string could begin, the string of the line is under way. -/
theorem exists_string {text : Text} {m : Span} (occurs : Occurs StringPart text m) :
    ∃ s ∈ strings text, s.start ≤ m.start ∧ m.start < s.stop := by
  obtain ⟨before,_,after,rfl,⟨body,within,rfl,_⟩,rfl⟩ := occurs
  obtain ⟨line,inText,done,rest,pre,post,lies,content,rfl,same⟩ :=
    Line.exists_mem before ('"' :: (body ++ ['"']) ++ after)
  have onLine : ∀ c ∈ '"' :: (body ++ ['"']), endsLine c = false := by
    have mark : endsLine '"' = false := by decide
    simpa [or_imp,forall_and,mark] using within
  obtain ⟨more,rfl,_⟩ := lies.exists_more same onLine
  obtain ⟨s,isString,start,stop⟩ := @Line.exists_string line pre body more (by simpa using content)
  refine ⟨s,List.mem_filterMap.mpr ⟨line,inText,isString⟩,?_,?_⟩
  · simpa [lies.start] using start
  · simpa [lies.start] using stop

theorem literals_cover (text : Text) : Covers (Occurs LiteralPart text) (IsLiteral text) where
  isHit := by
    rintro m (member | ⟨⟨before,inside,after,same,holds,rfl⟩,_⟩)
    · obtain ⟨before,inside,after,same,holds,rfl⟩ := string_occurs member
      exact ⟨before,inside,after,same,.inl holds,rfl⟩
    · exact ⟨before,inside,after,same,.inr holds,rfl⟩
  nonempty := by
    rintro m (member | ⟨digit,_⟩)
    · exact Line.string?_onLine.nonempty text m member
    · have := digit_stop digit
      omega
  apart := by
    rintro m m' (member | ⟨digit,_⟩) (member' | ⟨digit',outside⟩) less
    · exact Span.apart_of_pairwise (Line.string?_onLine.sorted text)
        (Line.string?_onLine.nonempty text) member member' less
    · rcases outside m member with before | behind
      · omega
      · exact behind
    · have := digit_stop digit
      omega
    · have := digit_stop digit
      omega
  cover := by
    rintro m ⟨before,inside,after,same,string | digit,rfl⟩
    · obtain ⟨s,member,start,stop⟩ := exists_string ⟨before,inside,after,same,string,rfl⟩
      exact ⟨s,.inl member,start,stop⟩
    · have occurs : Occurs DigitPart text ⟨before.bytes,before.bytes + inside.bytes⟩ :=
        ⟨before,inside,after,same,digit,rfl⟩
      by_cases outside : ∀ s ∈ strings text, before.bytes < s.start ∨ s.stop ≤ before.bytes
      · refine ⟨_,.inr ⟨occurs,outside⟩,Nat.le_refl _,?_⟩
        have := digit_stop occurs
        omega
      · push Not at outside
        obtain ⟨s,member,start,stop⟩ := outside
        exact ⟨s,.inl member,start,stop⟩

/-- The rule for literals matches the strings of the lines and the digits outside of them that
follow a character which belongs to no identifier. -/
theorem literal_findAll [Libraries] (palette : Palette) (text : Text)
    (lasts : ∀ rule, ruleNamed? palette "literal".toList = some rule → rule.pattern.Lasts text) :
    ∃ rule spans, ruleNamed? palette "literal".toList = some rule ∧
      rule.pattern.findAll text = .ok spans ∧ (∀ m, m ∈ spans ↔ IsLiteral text m) ∧
      spans.Pairwise fun a b => a.stop ≤ b.start := by
  have named : ruleNamed? palette "literal".toList =
      some ⟨"literal".toList,literalPattern,palette.literal⟩ := by rw [ruleNamed?_eq]; rfl
  have denotes : literalPattern.Denotes LiteralPart := ⟨rfl,literal_denotes⟩
  obtain ⟨spans,found⟩ := findAll_of_denotes denotes literalPart_unique (lasts _ named)
    (literals_cover text)
  exact ⟨_,spans,named,found⟩

/-- A line with three marks, a line with one, and digits that follow either. -/
theorem literal_findAll_marks :
    (∀ rule, ruleNamed? .standard "literal".toList = some rule →
      rule.pattern.Lasts "7 \"a\"1\" 23\n\"4 é5 x6".toList) ∧
    ∃ rule spans, ruleNamed? .standard "literal".toList = some rule ∧
      rule.pattern.findAll "7 \"a\"1\" 23\n\"4 é5 x6".toList = .ok spans ∧
      (∀ m, m ∈ spans ↔ IsLiteral "7 \"a\"1\" 23\n\"4 é5 x6".toList m) ∧
      spans.Pairwise fun a b => a.stop ≤ b.start := by
  have lasts : ∀ rule, ruleNamed? .standard "literal".toList = some rule →
      rule.pattern.Lasts "7 \"a\"1\" 23\n\"4 é5 x6".toList := by
    intro rule named
    rw [ruleNamed?_eq] at named
    cases named
    exact lasts_of_forall (by decide +kernel)
  exact ⟨lasts,literal_findAll .standard "7 \"a\"1\" 23\n\"4 é5 x6".toList lasts⟩

end Austral

end Highlighting
