import Highlighting.Proofs.AustralRules
import Highlighting.Proofs.Denotation

/-! The comments of Austral, line by line. A comment begins with two dashes and goes on to the line
feed behind it, or to the end of the text. The other characters that end a line stop the pattern
without ending a match, so that a line that they end holds no comment. -/
namespace Highlighting

namespace Text

def find? (part : Text) : Text → Option Nat
  | [] => none
  | c :: rest =>
    if part.isPrefixOf (c :: rest) then some 0 else (find? part rest).map (c.utf8Size + ·)

theorem find?_eq_some {part text : Text} {offset : Nat} (found : find? part text = some offset) :
    ∃ before after, text = before ++ (part ++ after) ∧ offset = before.bytes := by
  induction text generalizing offset with
  | nil => contradiction
  | cons c rest ih =>
    by_cases here : part.isPrefixOf (c :: rest)
    · obtain ⟨after,same⟩ := List.isPrefixOf_iff_prefix.mp here
      simp only [find?,here,if_true,Option.some.injEq] at found
      exact ⟨[],after,same.symm,found.symm⟩
    · simp only [find?,here,Bool.false_eq_true,if_false] at found
      obtain ⟨n,later,rfl⟩ := Option.map_eq_some_iff.mp found
      obtain ⟨before,after,rfl,rfl⟩ := ih later
      exact ⟨c :: before,after,rfl,rfl⟩

theorem find?_le {part : Text} (nonempty : part ≠ []) (before after : Text) :
    ∃ offset, find? part (before ++ (part ++ after)) = some offset ∧ offset ≤ before.bytes := by
  induction before with
  | nil =>
    obtain ⟨c,part,rfl⟩ := List.exists_cons_of_ne_nil nonempty
    exact ⟨0,by simp [find?],Nat.zero_le _⟩
  | cons c before ih =>
    obtain ⟨offset,found,le⟩ := ih
    by_cases here : part.isPrefixOf (c :: (before ++ (part ++ after)))
    · exact ⟨0,by simp [find?,here],Nat.zero_le _⟩
    · refine ⟨c.utf8Size + offset,?_,by simpa using le⟩
      simp only [List.cons_append,find?,here,Bool.false_eq_true,if_false,found,Option.map_some]

def Line.comment? (line : Line) : Option Span :=
  if line.ending = none ∨ line.ending = some '\n' then
    (find? ['-','-'] line.content).map fun before => ⟨line.start + before,line.stop⟩
  else none

end Text

namespace Austral

open Text Pattern Pattern.Regular

/-- Two dashes and what follows them on the line, up to a line feed or the end of the text. -/
def CommentPart : Text.Property := fun _ inside after =>
  ∃ body, (∀ c ∈ body, endsLine c = false) ∧
    (inside = '-' :: '-' :: (body ++ ['\n']) ∨ inside = '-' :: '-' :: body ∧ after = [])

theorem comment_denotes : commentExpression.Denotes CommentPart := by
  intro c d
  simp only [commentExpression,matches_seq,matches_one,matches_star_one,matches_group,matches_alt,
    matches_look,CharSet.contains,List.contains_eq_mem,List.mem_singleton,decide_eq_true_eq,
    exists_eq_left,withinLineSet_contains,Bool.not_eq_true']
  constructor
  · rintro ⟨_,dash,_,dash',m,⟨body,within,reads⟩,ending⟩
    have dashes := Cursor.reads_cons.mpr ⟨_,dash,Cursor.reads_cons.mpr ⟨_,dash',reads⟩⟩
    rcases ending with lineFeed | ⟨atEnd,rfl⟩
    · refine ⟨_,Cursor.reads_append.mpr ⟨_,dashes,lineFeed⟩,body,within,.inl ?_⟩
      simp
    · exact ⟨_,dashes,body,within,.inr ⟨rfl,by simpa [Look.holds] using atEnd⟩⟩
  · rintro ⟨w,reads,body,within,ending⟩
    rcases ending with rfl | ⟨rfl,atEnd⟩
    · obtain ⟨_,dash,reads⟩ := Cursor.reads_cons.mp reads
      obtain ⟨_,dash',reads⟩ := Cursor.reads_cons.mp reads
      obtain ⟨m,reads,lineFeed⟩ := Cursor.reads_append.mp reads
      exact ⟨_,dash,_,dash',m,⟨body,within,reads⟩,.inl lineFeed⟩
    · obtain ⟨_,dash,reads⟩ := Cursor.reads_cons.mp reads
      obtain ⟨_,dash',reads⟩ := Cursor.reads_cons.mp reads
      exact ⟨_,dash,_,dash',d,⟨body,within,reads⟩,.inr ⟨by simp [Look.holds,atEnd],rfl⟩⟩

theorem commentPart_unique : CommentPart.Unique := by
  rintro before _ after _ after' ⟨body,within,ending⟩ ⟨body',within',ending'⟩ same
  have notWithin {v w r : Text} (within : ∀ c ∈ w, endsLine c = false)
      (same : v ++ '\n' :: r = w) : False := by
    have := within '\n' (by simp [← same])
    contradiction
  rcases ending with rfl | ⟨rfl,rfl⟩ <;> rcases ending' with rfl | ⟨rfl,rfl⟩ <;>
    simp only [List.cons_append,List.append_assoc,List.nil_append,List.append_nil,List.cons.injEq,
      true_and] at same
  · rw [(eq_of_first within within' (by decide) (by decide) same).1]
  · exact (notWithin within' same).elim
  · exact (notWithin within same.symm).elim
  · rw [same]

theorem comment?_eq_some {line : Line} {m : Span} (isComment : line.comment? = some m) :
    ∃ before body, (line.ending = none ∨ line.ending = some '\n') ∧
      line.content = before ++ '-' :: '-' :: body ∧
        m = ⟨line.start + before.bytes,line.stop⟩ := by
  simp only [Line.comment?] at isComment
  split at isComment
  · next ending =>
    obtain ⟨offset,found,rfl⟩ := Option.map_eq_some_iff.mp isComment
    obtain ⟨before,body,same,rfl⟩ := find?_eq_some found
    exact ⟨before,body,ending,same,rfl⟩
  · contradiction

theorem comment?_onLine : Line.OnLine Line.comment? := by
  intro line m isComment
  obtain ⟨before,body,_,content,rfl⟩ := comment?_eq_some isComment
  have positive := Char.utf8Size_pos '-'
  simp only [Line.stop,content,bytes_append,bytes_cons]
  omega

/-- The comments of a text, of which each line has at most one. -/
def comments (text : Text) : List Span := (Line.all text).filterMap Line.comment?

theorem comment_occurs {text : Text} {m : Span} (member : m ∈ comments text) :
    Occurs CommentPart text m := by
  obtain ⟨line,inText,isComment⟩ := List.mem_filterMap.mp member
  obtain ⟨before,body,ending,content,rfl⟩ := comment?_eq_some isComment
  obtain ⟨done,rest,lies⟩ := Line.lies_of_mem inText
  have within : ∀ c ∈ body, endsLine c = false :=
    fun c inBody => lies.content c (by simp [content,inBody])
  refine ⟨done ++ before,'-' :: '-' :: (body ++ line.ending.toList),rest,?_,⟨body,within,?_⟩,?_⟩
  · rw [lies.text,content]
    simp
  · rcases ending with none | some
    · exact .inr ⟨by simp [none],lies.last none⟩
    · exact .inl (by simp [some])
  · simp [Line.stop,lies.start,content,Nat.add_assoc]

/-- Dashes up to where a comment ends are the rest of their line, and the line ends there. -/
theorem ends_of_dashes {text done rest pre post inside after body : Text} {line : Line}
    (lies : line.Lies text done rest) (content : line.content = pre ++ post)
    (same : inside ++ after = post ++ (line.ending.toList ++ rest))
    (within : ∀ c ∈ body, endsLine c = false)
    (ending : inside = '-' :: '-' :: (body ++ ['\n']) ∨ inside = '-' :: '-' :: body ∧ after = []) :
    post = '-' :: '-' :: body ∧ (line.ending = none ∨ line.ending = some '\n') := by
  have dashed : ∀ c ∈ '-' :: '-' :: body, endsLine c = false := by
    simpa using ⟨by decide,within⟩
  rcases ending with rfl | ⟨rfl,rfl⟩
  · obtain ⟨more,rfl,tail⟩ := lies.exists_more
      (show ('-' :: '-' :: body) ++ '\n' :: after = _ from by simpa using same) dashed
    cases more with
    | nil =>
      refine ⟨by simp,?_⟩
      cases isEnding : line.ending with
      | none => exact .inl rfl
      | some e =>
        rw [isEnding] at tail
        exact .inr (congrArg some (List.cons.inj tail).1.symm)
    | cons c more =>
      obtain ⟨rfl,_⟩ := List.cons.inj tail
      have inLine := lies.content '\n' (by simp [content])
      contradiction
  · obtain ⟨more,rfl,tail⟩ := lies.exists_more same dashed
    simp only [List.nil_eq,List.append_eq_nil_iff,Option.toList_eq_nil_iff] at tail
    exact ⟨by simp [tail.1],.inl tail.2.1⟩

/-- Wherever a comment could begin, the comment of the line is under way. -/
theorem exists_comment {text : Text} {m : Span} (occurs : Occurs CommentPart text m) :
    ∃ s ∈ comments text, s.start ≤ m.start ∧ m.start < s.stop := by
  obtain ⟨before,inside,after,rfl,⟨body,within,ending⟩,rfl⟩ := occurs
  obtain ⟨line,inText,done,rest,pre,post,lies,content,rfl,same⟩ :=
    Line.exists_mem before (inside ++ after)
  obtain ⟨rfl,ending⟩ := ends_of_dashes lies content same within ending
  obtain ⟨offset,found,le⟩ := find?_le (List.cons_ne_nil '-' ['-']) pre body
  refine ⟨⟨line.start + offset,line.stop⟩,List.mem_filterMap.mpr ⟨line,inText,?_⟩,?_,?_⟩
  · rw [Line.comment?,if_pos ending,content]
    exact congrArg (Option.map _) found
  · simpa [lies.start] using le
  · have positive := Char.utf8Size_pos '-'
    simp only [Line.stop,lies.start,content,bytes_append,bytes_cons]
    omega

theorem comments_cover (text : Text) : Covers (Occurs CommentPart text) (· ∈ comments text) where
  isHit _ := comment_occurs
  nonempty := comment?_onLine.nonempty text
  apart _ _ member member' :=
    Span.apart_of_pairwise (comment?_onLine.sorted text) (comment?_onLine.nonempty text) member member'
  cover _ := exists_comment

/-- The rule for comments matches, line by line, what follows the first two dashes. -/
theorem comment_findAll [Libraries] (palette : Palette) (text : Text) :
    ∃ rule, ruleNamed? palette "comment".toList = some rule ∧
      rule.pattern.findAll text = .ok ((Line.all text).filterMap Line.comment?) := by
  refine ⟨⟨"comment".toList,commentPattern,palette.comment⟩,by rw [ruleNamed?_eq]; rfl,?_⟩
  obtain ⟨spans,found,members,sorted⟩ :=
    @findAll_of_denotes commentPattern _ text comment_denotes commentPart_unique
      (fun _ _ => rfl) _ (comments_cover text)
  have nonempty : ∀ m ∈ spans, m.start < m.stop :=
    fun m member => comment?_onLine.nonempty text m ((members m).mp member)
  rw [found,Span.eq_of_mem_iff sorted (comment?_onLine.sorted text) nonempty members]

end Austral

end Highlighting
