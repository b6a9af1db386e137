import Highlighting.Proofs.Denotation

/-! The scan as a greedy choice. Where the match that starts at a place depends on the place alone, the
scan lists the matches that no earlier one of the list reaches over: it goes on behind a match that
is not empty, and one character behind an empty one, which at the end of the text leaves nothing. -/
namespace Highlighting

namespace Span

inductive Next (text : Text) : Span → Nat → Prop
  | behind {m : Span} (nonempty : m.start < m.stop) : Next text m m.stop
  | past {before after : Text} {c : Char} (same : text = before ++ c :: after) :
      Next text ⟨before.bytes,before.bytes⟩ (before.bytes + c.utf8Size)
  | atEnd : Next text ⟨text.bytes,text.bytes⟩ (text.bytes + 1)

variable {text : Text} {m : Span} {next next' : Nat}

theorem Fits.exists_next (fits : m.Fits text) : ∃ next, m.Next text next := by
  rcases Nat.lt_or_eq_of_le fits.ordered with nonempty | empty
  · exact ⟨m.stop,.behind nonempty⟩
  · obtain ⟨start,stop⟩ := m
    obtain ⟨before,after,same,rfl⟩ := fits.stop
    cases empty
    cases after with
    | nil =>
      rw [List.append_nil] at same
      subst same
      exact ⟨_,.atEnd⟩
    | cons c after => exact ⟨_,.past same⟩

theorem Next.resume?_eq (isNext : m.Next text next) : Scan.resume? text m = some next := by
  cases isNext with
  | behind nonempty => simp [Scan.resume?,isEmpty,Nat.not_le.mpr nonempty]
  | @past before after c same =>
    subst same
    have cutting : Text.cutBack [] (before ++ c :: after) before.bytes =
        some (before.reverse,c :: after) := by
      rw [Text.cutBack_eq,Text.cut_append]
      simp
    simp [Scan.resume?,isEmpty,cutting]
  | atEnd =>
    have whole := Text.cut_append text []
    rw [List.append_nil] at whole
    have cutting : Text.cutBack [] text text.bytes = some (text.reverse,[]) := by
      rw [Text.cutBack_eq,whole]
      simp
    simp [Scan.resume?,isEmpty,cutting]

theorem Next.unique (isNext : m.Next text next) (isNext' : m.Next text next') : next = next' :=
  Option.some.inj (isNext.resume?_eq.symm.trans isNext'.resume?_eq)

theorem Fits.next_of_resume? (fits : m.Fits text) (further : Scan.resume? text m = some next) :
    m.Next text next := by
  obtain ⟨other,isNext⟩ := fits.exists_next
  rw [isNext.resume?_eq] at further
  cases further
  exact isNext

theorem Fits.boundary_of_resume? (fits : m.Fits text) (further : Scan.resume? text m = some next)
    (inside : next ≤ text.bytes) : text.IsBoundary next := by
  obtain ⟨_,equal,_,_,_,_,boundary⟩ := Scan.resume?_of_fits fits
  rw [further] at equal
  cases equal
  exact boundary inside

theorem Next.start_lt (isNext : m.Next text next) : m.start < next := by
  cases isNext with
  | behind nonempty => exact nonempty
  | past => exact Nat.lt_add_of_pos_right (Char.utf8Size_pos _)
  | atEnd => exact Nat.lt_succ_self _

/-- Only an empty match at the end of the text leaves no place for another one. -/
theorem Next.le_bytes_iff (isNext : m.Next text next) (fits : m.Fits text) :
    next ≤ text.bytes ↔ m.start < text.bytes := by
  have stop := fits.stop.le
  cases isNext with
  | behind nonempty => omega
  | @past before after c same =>
    subst same
    have positive := c.utf8Size_pos
    simp only [Text.bytes_append,Text.bytes_cons]
    omega
  | atEnd => simp

end Span

namespace Search

/-- The match that starts at a place of the text ends at `stop? place`, if there is one, and searches
answer the first match from their offset on. -/
structure Positional (search : Search) (text : Text) (stop? : Nat → Option Nat) : Prop where
  fits : ∀ m : Span, stop? m.start = some m.stop → m.Fits text
  first : ∀ offset, text.IsBoundary offset →
    search.AnswersFirst text (fun m => stop? m.start = some m.stop) offset

def within (search : Search) (text : Text) : Search := fun other offset =>
  if other = text then search other offset else .ok none

variable {search : Search} {text : Text} {stop? : Nat → Option Nat}

theorem Positional.found (positional : search.Positional text stop?) {offset : Nat} {m : Span}
    (boundary : text.IsBoundary offset) (found : search text offset = .ok (some m)) :
    stop? m.start = some m.stop ∧ offset ≤ m.start ∧
      ∀ h : Span, stop? h.start = some h.stop → offset ≤ h.start → m.start ≤ h.start := by
  have first := positional.first offset boundary
  rwa [AnswersFirst,found] at first

theorem Positional.nothing (positional : search.Positional text stop?) {offset : Nat}
    (boundary : text.IsBoundary offset) (none : search text offset = .ok none) (h : Span)
    (isMatch : stop? h.start = some h.stop) : h.start < offset := by
  have first := positional.first offset boundary
  rw [AnswersFirst,none] at first
  exact first h isMatch

theorem Positional.within_wellFormed (positional : search.Positional text stop?) :
    (search.within text).WellFormed := by
  intro other offset boundary
  by_cases same : other = text
  · subst same
    rw [within,if_pos rfl]
    have first := positional.first offset boundary
    cases found : search other offset with
    | error fault => simp [AnswersFirst,found] at first
    | ok answer =>
      refine ⟨answer,rfl,?_⟩
      rintro m ⟨⟩
      obtain ⟨isMatch,after,_⟩ := positional.found boundary found
      exact ⟨after,positional.fits m isMatch⟩
  · exact ⟨none,by simp [within,same],by simp⟩

/-- A search from `offset` on tries the places from there up to the start of its answer. -/
def Tries (search : Search) (text : Text) (offset place : Nat) : Prop :=
  offset ≤ place ∧ ∀ m, search text offset = .ok (some m) → place ≤ m.start

end Search

theorem Text.Occurs.fits {part : Text.Property} {text : Text} {m : Span}
    (occurs : Text.Occurs part text m) : m.Fits text := by
  obtain ⟨before,inside,after,rfl,_,rfl⟩ := occurs
  exact ⟨Nat.le_add_right _ _,⟨before,inside ++ after,rfl,rfl⟩,
    ⟨before ++ inside,after,by simp,by simp⟩⟩

/-- A pattern that matches the parts of texts with a property, at most one at each place, has a
positional search in a text in which it never gives up. -/
theorem Pattern.positional_of_denotes {pattern : Pattern} {part : Text.Property} {text : Text}
    (denotes : pattern.Denotes part) (unique : part.Unique)
    (lasts : ∀ offset, pattern.givesUp text offset = false) :
    ∃ stop?, pattern.search.Positional text stop? := by
  have ends (start : Nat) : ∃ stop? : Option Nat, ∀ stop,
      stop? = some stop ↔ Text.Occurs part text ⟨start,stop⟩ := by
    by_cases here : ∃ stop, Text.Occurs part text ⟨start,stop⟩
    · obtain ⟨stop,occurs⟩ := here
      refine ⟨some stop,fun other => ⟨fun same => ?_,fun occurs' => ?_⟩⟩
      · cases same
        exact occurs
      · cases occurs.unique unique occurs' rfl
        rfl
    · exact ⟨none,fun stop => ⟨by simp,fun occurs => absurd ⟨stop,occurs⟩ here⟩⟩
  choose stop? isEnd using ends
  have same : (fun m : Span => stop? m.start = some m.stop) = Text.Occurs part text :=
    funext fun m => propext (isEnd m.start m.stop)
  refine ⟨stop?,fun m isMatch => ((isEnd _ _).mp isMatch).fits,fun offset boundary => ?_⟩
  rw [same]
  exact Pattern.answersFirst_of_denotes denotes boundary (lasts offset)

/-- The spans are, from left to right, the matches over whose start no earlier one of them reaches. -/
structure Greedy (text : Text) (stop? : Nat → Option Nat) (spans : List Span) : Prop where
  sorted : spans.Pairwise fun a b => a.start < b.start
  mem_iff : ∀ m, m ∈ spans ↔ stop? m.start = some m.stop ∧
    ∀ q ∈ spans, q.start < m.start → ∃ next, q.Next text next ∧ next ≤ m.start

namespace Greedy

variable {text : Text} {stop? : Nat → Option Nat} {spans spans' : List Span} {m : Span}

theorem unique (greedy : Greedy text stop? spans) (greedy' : Greedy text stop? spans') :
    spans = spans' := by
  -- Whether a match is listed depends on the ones that start earlier alone.
  have same (start : Nat) : ∀ m : Span, m.start = start → (m ∈ spans ↔ m ∈ spans') := by
    induction start using Nat.strongRecOn with
    | _ start ih =>
      intro m isStart
      rw [greedy.mem_iff,greedy'.mem_iff]
      refine and_congr_right fun _ => forall_congr' fun q => ?_
      constructor
      · intro unreached member less
        exact unreached ((ih q.start (isStart ▸ less) q rfl).mpr member) less
      · intro unreached member less
        exact unreached ((ih q.start (isStart ▸ less) q rfl).mp member) less
  exact Span.eq_of_starts greedy.sorted greedy'.sorted fun m => same m.start m rfl

theorem isMatch (greedy : Greedy text stop? spans) (member : m ∈ spans) :
    stop? m.start = some m.stop :=
  ((greedy.mem_iff m).mp member).1

/-- A match that is not listed starts where an earlier one that is listed reaches over. -/
theorem mem_or_reached (greedy : Greedy text stop? spans)
    (fits : ∀ m : Span, stop? m.start = some m.stop → m.Fits text)
    (isMatch : stop? m.start = some m.stop) :
    m ∈ spans ∨ ∃ q ∈ spans, q.start < m.start ∧ ∃ next, q.Next text next ∧ m.start < next := by
  refine Classical.or_iff_not_imp_right.mpr fun unreached => ?_
  refine (greedy.mem_iff m).mpr ⟨isMatch,fun q member less => ?_⟩
  obtain ⟨next,isNext⟩ := (fits q (greedy.isMatch member)).exists_next
  refine ⟨next,isNext,Nat.le_of_not_lt fun reaches => ?_⟩
  exact unreached ⟨q,member,less,next,isNext,reaches⟩

/-- A match that starts where one that is not empty ends is listed behind that one. -/
theorem mem_behind (greedy : Greedy text stop? spans) (member : m ∈ spans)
    (nonempty : m.start < m.stop) {stop : Nat} (isMatch : stop? m.stop = some stop) :
    ⟨m.stop,stop⟩ ∈ spans := by
  refine (greedy.mem_iff _).mpr ⟨isMatch,fun q isListed less => ?_⟩
  rcases Nat.lt_trichotomy q.start m.start with before | same | after
  · obtain ⟨next,isNext,le⟩ := ((greedy.mem_iff m).mp member).2 q isListed before
    exact ⟨next,isNext,by simp only; omega⟩
  · have ends : q.stop = m.stop := by
      have isMatch' := greedy.isMatch isListed
      rw [same,greedy.isMatch member] at isMatch'
      exact (Option.some.inj isMatch').symm
    exact ⟨q.stop,.behind (by omega),Nat.le_of_eq ends⟩
  · obtain ⟨next,isNext,le⟩ := ((greedy.mem_iff q).mp isListed).2 m member after
    have := isNext.unique (.behind nonempty)
    simp only at less
    omega

theorem mem_atEnd (greedy : Greedy text stop? spans)
    (fits : ∀ m : Span, stop? m.start = some m.stop → m.Fits text)
    (isMatch : stop? text.bytes = some text.bytes) : ⟨text.bytes,text.bytes⟩ ∈ spans := by
  refine (greedy.mem_iff _).mpr ⟨isMatch,fun q member less => ?_⟩
  have inside := fits q (greedy.isMatch member)
  obtain ⟨next,isNext⟩ := inside.exists_next
  exact ⟨next,isNext,(isNext.le_bytes_iff inside).mpr less⟩

end Greedy

namespace Scan

open Search (Positional)

variable {search search' : Search} {text : Text} {stop? : Nat → Option Nat}

theorem from?_congr (agree : ∀ offset, search text offset = search' text offset)
    (size fuel offset : Nat) :
    from? search text size fuel offset = from? search' text size fuel offset := by
  induction fuel generalizing offset with
  | zero => rfl
  | succ fuel ih => simp only [from?,agree,ih]

/-- What the scan from an offset on lists, in terms of the offset. -/
theorem Run.greedy (positional : search.Positional text stop?) {offset : Nat} {spans : List Span}
    (run : Run search text offset spans)
    (boundary : offset ≤ text.bytes → text.IsBoundary offset) :
    spans.Pairwise (fun a b => a.start < b.start) ∧
    ∀ m, m ∈ spans ↔ stop? m.start = some m.stop ∧ offset ≤ m.start ∧
      ∀ q ∈ spans, q.start < m.start → ∃ next, q.Next text next ∧ next ≤ m.start := by
  induction run with
  | @behind offset beyond =>
    refine ⟨.nil,fun m => ⟨by simp,?_⟩⟩
    rintro ⟨isMatch,after,_⟩
    have := (positional.fits m isMatch).start.le
    omega
  | @nothing offset none =>
    refine ⟨.nil,fun m => ⟨by simp,?_⟩⟩
    rintro ⟨isMatch,after,_⟩
    have inside := (positional.fits m isMatch).start.le
    have := positional.nothing (boundary (Nat.le_trans after inside)) none m isMatch
    omega
  | @found offset m next ms inside found further run ih =>
    obtain ⟨isMatch,after,least⟩ := positional.found (boundary inside) found
    have fits := positional.fits m isMatch
    have isNext := fits.next_of_resume? further
    have onward := isNext.start_lt
    obtain ⟨sorted,members⟩ := ih (fits.boundary_of_resume? further)
    have behind (x) (member : x ∈ ms) : next ≤ x.start := ((members x).mp member).2.1
    refine ⟨List.pairwise_cons.mpr
      ⟨fun x member => Nat.lt_of_lt_of_le onward (behind x member),sorted⟩,fun x => ?_⟩
    simp only [List.mem_cons,forall_eq_or_imp]
    constructor
    · rintro (rfl | member)
      · refine ⟨isMatch,after,fun less => absurd less (Nat.lt_irrefl _),fun q inRest less => ?_⟩
        have := behind q inRest
        omega
      · obtain ⟨isMatch',after',apart⟩ := (members x).mp member
        exact ⟨isMatch',by omega,fun _ => ⟨next,isNext,after'⟩,apart⟩
    · rintro ⟨isMatch',after',unreached,apart⟩
      -- No match starts between the offset and the one found, so `x` starts behind that or is that.
      rcases Nat.lt_or_eq_of_le (least x isMatch' after') with less | same
      · obtain ⟨next',isNext',le⟩ := unreached less
        rw [isNext'.unique isNext] at le
        exact .inr ((members x).mpr ⟨isMatch',le,apart⟩)
      · left
        rw [← same,isMatch] at isMatch'
        obtain ⟨start,stop⟩ := x
        cases same
        cases isMatch'
        rfl

/-- A scan that searches at an offset later searches at the other one. -/
inductive Reaches (search : Search) (text : Text) : Nat → Nat → Prop where
  | refl {offset} : Reaches search text offset offset
  | next {offset m next last} : search text offset = .ok (some m) → resume? text m = some next →
      next ≤ text.bytes → Reaches search text next last → Reaches search text offset last

theorem Reaches.snoc {offset last next : Nat} {m : Span} (reaches : Reaches search text offset last)
    (found : search text last = .ok (some m)) (further : resume? text m = some next)
    (inside : next ≤ text.bytes) : Reaches search text offset next := by
  induction reaches with
  | refl => exact .next found further inside .refl
  | next found' further' inside' _ ih => exact .next found' further' inside' (ih found)

theorem Reaches.visits {offset last : Nat} (reaches : Reaches search text offset last)
    (visits : Visits search text offset) : Visits search text last := by
  induction reaches with
  | refl => exact visits
  | next found further inside _ ih => exact ih (.next visits found further inside)

theorem visits_iff_reaches {offset : Nat} :
    Visits search text offset ↔ Reaches search text 0 offset := by
  constructor
  · intro visits
    induction visits with
    | start => exact .refl
    | next _ found further inside ih => exact ih.snoc found further inside
  · exact fun reaches => reaches.visits .start

theorem Reaches.eq_or_next {offset last next : Nat} {m : Span}
    (reaches : Reaches search text offset last) (found : search text offset = .ok (some m))
    (further : resume? text m = some next) :
    last = offset ∨ next ≤ text.bytes ∧ Reaches search text next last := by
  cases reaches with
  | refl => exact .inl rfl
  | next found' further' inside reaches =>
    rw [found] at found'
    cases found'
    rw [further] at further'
    cases further'
    exact .inr ⟨inside,reaches⟩

/-- The last search of a scan, and no other one, tries the end of the text. -/
theorem Run.existsUnique_tries (positional : search.Positional text stop?) {offset : Nat}
    {spans : List Span} (run : Run search text offset spans)
    (boundary : offset ≤ text.bytes → text.IsBoundary offset) (within : offset ≤ text.bytes) :
    ∃! last, Reaches search text offset last ∧ search.Tries text last text.bytes := by
  induction run with
  | behind beyond => omega
  | @nothing offset none =>
    refine ⟨offset,⟨.refl,within,by simp [none]⟩,?_⟩
    rintro last ⟨reaches,_⟩
    cases reaches with
    | refl => rfl
    | next found => rw [none] at found; cases found
  | @found offset m next ms inside found further _ ih =>
    have fits := positional.fits m (positional.found (boundary inside) found).1
    have le_iff := (fits.next_of_resume? further).le_bytes_iff fits
    -- A match before the end leaves the end to a later search, and one at the end leaves nothing.
    by_cases notAtEnd : m.start < text.bytes
    · have onward := le_iff.mpr notAtEnd
      obtain ⟨last,⟨reaches,tries⟩,unique⟩ := ih (fits.boundary_of_resume? further) onward
      refine ⟨last,⟨.next found further onward reaches,tries⟩,?_⟩
      rintro other ⟨reaches',tries'⟩
      rcases reaches'.eq_or_next found further with rfl | ⟨_,reaches'⟩
      · exact absurd (tries'.2 m found) (Nat.not_le.mpr notAtEnd)
      · exact unique other ⟨reaches',tries'⟩
    · refine ⟨offset,⟨.refl,inside,fun m' found' => ?_⟩,?_⟩
      · rw [found] at found'
        cases found'
        exact Nat.le_of_not_lt notAtEnd
      · rintro other ⟨reaches,_⟩
        rcases reaches.eq_or_next found further with rfl | ⟨onward,_⟩
        · rfl
        · exact absurd (le_iff.mp onward) notAtEnd

/-- The scan for a positional search always ends. It lists exactly the matches, from left to right,
over whose start no earlier one of the list reaches, and no other list is of this kind. So a match
that is passed over starts where one of the list reaches over; a match right behind one that is not
empty is listed, even an empty one; the end of the text is tried as a start by exactly one search, and
an empty match there is listed. There is at most one match for each character and one more. -/
theorem findAll_greedy (positional : search.Positional text stop?) :
    ∃ spans, findAll search text = .ok spans ∧ Greedy text stop? spans ∧
      (∀ others, Greedy text stop? others → others = spans) ∧
      (∀ m : Span, stop? m.start = some m.stop → m ∈ spans ∨
        ∃ q ∈ spans, q.start < m.start ∧ ∃ next, q.Next text next ∧ m.start < next) ∧
      (∀ m ∈ spans, m.start < m.stop → ∀ stop, stop? m.stop = some stop → ⟨m.stop,stop⟩ ∈ spans) ∧
      (∃! offset, Visits search text offset ∧ search.Tries text offset text.bytes) ∧
      (stop? text.bytes = some text.bytes → ⟨text.bytes,text.bytes⟩ ∈ spans) ∧
      spans.length ≤ text.length + 1 := by
  have wellFormed := positional.within_wellFormed
  obtain ⟨spans,returned,_⟩ := findAll_laid wellFormed text
  have run := from?_run _ _ _ _ spans returned
  have short := run.length_le wellFormed.sound text.nil_append.symm rfl
  have same : findAll search text = findAll (search.within text) text :=
    from?_congr (fun _ => (if_pos rfl).symm) _ _ _
  rw [← same] at returned
  have run := from?_run _ _ _ _ spans returned
  obtain ⟨sorted,members⟩ := run.greedy positional fun _ => text.isBoundary_zero
  have greedy : Greedy text stop? spans := ⟨sorted,by simpa using members⟩
  refine ⟨spans,returned,greedy,fun others greedy' => greedy'.unique greedy,
    fun m isMatch => greedy.mem_or_reached positional.fits isMatch,
    fun m member nonempty stop isMatch => greedy.mem_behind member nonempty isMatch,?_,
    greedy.mem_atEnd positional.fits,short⟩
  simp only [visits_iff_reaches]
  exact run.existsUnique_tries positional (fun _ => text.isBoundary_zero) (Nat.zero_le _)

/-- The ends of the matches of `x*` in the text `xé`. -/
def starStop? : Nat → Option Nat
  | 0 => some 1
  | 1 => some 1
  | 3 => some 3
  | _ => none

theorem starStop?_eq_some {m : Span} (isMatch : starStop? m.start = some m.stop) :
    m = ⟨0,1⟩ ∨ m = ⟨1,1⟩ ∨ m = ⟨3,3⟩ := by
  obtain ⟨start,stop⟩ := m
  simp only [starStop?] at isMatch
  split at isMatch <;> simp_all

theorem boundary_star {offset : Nat} (boundary : Text.IsBoundary ['x','é'] offset) :
    offset = 0 ∨ offset = 1 ∨ offset = 3 := by
  obtain ⟨before,after,same,rfl⟩ := boundary
  match before with
  | [] => exact .inl rfl
  | [_] =>
    simp only [List.singleton_append,List.cons.injEq] at same
    exact .inr (.inl (by rw [← same.1]; rfl))
  | [_,_] =>
    simp only [List.cons_append,List.cons.injEq] at same
    exact .inr (.inr (by rw [← same.1,← same.2.1]; rfl))
  | _ :: _ :: _ :: _ => simp at same

theorem star_positional {search : Search} (first : search ['x','é'] 0 = .ok (some ⟨0,1⟩))
    (second : search ['x','é'] 1 = .ok (some ⟨1,1⟩))
    (third : search ['x','é'] 3 = .ok (some ⟨3,3⟩)) :
    search.Positional ['x','é'] starStop? := by
  constructor
  · intro m isMatch
    rcases starStop?_eq_some isMatch with rfl | rfl | rfl
    · exact ⟨by decide,⟨[],_,rfl,rfl⟩,⟨['x'],['é'],rfl,rfl⟩⟩
    · exact ⟨by decide,⟨['x'],['é'],rfl,rfl⟩,⟨['x'],['é'],rfl,rfl⟩⟩
    · exact ⟨by decide,⟨['x','é'],[],rfl,rfl⟩,⟨['x','é'],[],rfl,rfl⟩⟩
  · intro offset boundary
    rcases boundary_star boundary with rfl | rfl | rfl
    · rw [Search.AnswersFirst,first]
      exact ⟨rfl,Nat.le_refl _,fun h _ after => after⟩
    · rw [Search.AnswersFirst,second]
      exact ⟨rfl,Nat.le_refl _,fun h _ after => after⟩
    · rw [Search.AnswersFirst,third]
      exact ⟨rfl,Nat.le_refl _,fun h _ after => after⟩

/-- An empty match follows a match that is not empty, and another one a character of two bytes. -/
theorem findAll_greedy_star :
    ∃ pattern, Pattern.compile? ['x','*'] = some pattern ∧
      pattern.search.Positional ['x','é'] starStop? ∧
      pattern.findAll ['x','é'] = .ok [⟨0,1⟩,⟨1,1⟩,⟨3,3⟩] ∧
      Greedy ['x','é'] starStop? [⟨0,1⟩,⟨1,1⟩,⟨3,3⟩] ∧
      ∃! offset, Visits pattern.search ['x','é'] offset ∧ pattern.search.Tries ['x','é'] offset 3 := by
  have facts : ((Pattern.compile? ['x','*']).map fun pattern =>
      (pattern.findAll ['x','é'],[0,1,3].map (pattern.search ['x','é']))) =
      some (.ok [⟨0,1⟩,⟨1,1⟩,⟨3,3⟩],
        [.ok (some ⟨0,1⟩),.ok (some ⟨1,1⟩),.ok (some ⟨3,3⟩)]) := by decide
  obtain ⟨pattern,compiled,facts⟩ := Option.map_eq_some_iff.mp facts
  simp only [List.map_cons,List.map_nil,Prod.mk.injEq,List.cons.injEq] at facts
  obtain ⟨listed,first,second,third,_⟩ := facts
  have positional := star_positional first second third
  obtain ⟨spans,returned,greedy,_,_,_,once,_⟩ := findAll_greedy positional
  have same : spans = [⟨0,1⟩,⟨1,1⟩,⟨3,3⟩] := Except.ok.inj (returned.symm.trans listed)
  subst same
  exact ⟨pattern,compiled,positional,listed,greedy,once⟩

end Scan

end Highlighting
