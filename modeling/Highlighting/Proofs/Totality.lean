import Mathlib.Control.Monad.Basic
import Highlighting.Output
import Highlighting.Proofs.Division
import Highlighting.Proofs.Groups
import Highlighting.Proofs.Lowering

/-! Whether scanning and highlighting always come to an end with an answer. The search of every
pattern is sound, so a match is a part of the text; but a `\K` in a look-behind can start it
before the offset of the search. Such a match is all that can hold a scan or overlap another, and a
reference inside its own group is all that can leave a search without an answer. -/
namespace Highlighting

namespace Pattern

/-- Whether the extended grammar reads the source and a `\K` stands in a positive look-behind. -/
def keepsOutBehind (source : Text) : Bool :=
  (Regular.parse? source).isNone && (Extended.parse? source).any (·.keepsOut false)

/-- Whether a reference of the pattern stands inside the group that it refers to. -/
def refersInside (pattern : Pattern) : Bool :=
  match pattern.matcher with
  | .regular _ => false
  | .program p => p.refersInside []

/-- Whether a match of the pattern can start before the search, or a search be without answer. -/
def strays (pattern : Pattern) : Bool := keepsOutBehind pattern.source || pattern.refersInside

theorem Matcher.search_fits {matcher : Matcher} {place : Cursor} {m : Span}
    (found : matcher.search place = .ok (some m)) :
    place.offset ≤ m.stop ∧ m.Fits place.text := by
  cases matcher with
  | program p => exact Program.search_fits found
  | regular e =>
    obtain ⟨first,last,toFirst,toLast,rfl⟩ := Regular.search?_eq_some (Except.ok.inj found)
    have start := first.isBoundary
    have stop := last.isBoundary
    rw [toFirst.text] at start
    rw [toLast.text,toFirst.text] at stop
    exact ⟨(toFirst.trans toLast).offset,toLast.offset,start,stop⟩

theorem exists_place_of_search {pattern : Pattern} {text : Text} {offset : Nat} {m : Span}
    (found : pattern.search text offset = .ok (some m)) :
    ∃ place : Cursor, place.text = text ∧ place.offset = offset ∧
      pattern.matcher.search place = .ok (some m) := by
  rw [search] at found
  split at found
  · next place isPlace =>
    obtain ⟨inText,atOffset⟩ := Cursor.at?_eq_some isPlace
    exact ⟨place,inText,atOffset,found⟩
  · cases found

/-- Every match of a pattern is a part of the text that does not end before the search began. -/
theorem search_sound (pattern : Pattern) : pattern.search.Sound := by
  intro text offset m _ found
  obtain ⟨place,rfl,rfl,answer⟩ := exists_place_of_search found
  exact Matcher.search_fits answer

theorem search_ne_error {pattern : Pattern} (free : pattern.refersInside = false) (text : Text)
    (offset : Nat) (fault : SearchFault) : pattern.search text offset ≠ .error fault := by
  rw [search]
  rw [refersInside] at free
  split
  · next place _ =>
    cases isMatcher : pattern.matcher with
    | regular e => simp [Matcher.search]
    | program p =>
      rw [isMatcher] at free
      exact Program.search_ne_error free fault
  · simp

/-- The second copy begins the group again, and refers to it where only its old end is known. -/
example : ((compile? "(?:(a|b\\1)x)+".toList).map fun pattern =>
    (pattern.refersInside,pattern.findAll "axbx".toList)) =
      some (true,.error (.search .brokenGroup)) := by decide +kernel

section

variable [Libraries]

/-- The program of an accepted source moves the start of the match in a look-behind only if a
`\K` of the source stands in one. -/
theorem keepsOut_of_compile? {source : Text} {pattern : Pattern} {p : Program}
    (accepted : compile? source = some pattern) (free : keepsOutBehind source = false)
    (isProgram : pattern.matcher = .program p) : p.keepsOut false = false := by
  simp only [compile?] at accepted
  split at accepted
  · cases accepted
    contradiction
  · next refused =>
    obtain ⟨matcher,lowered,rfl⟩ := Option.map_eq_some_iff.mp accepted
    subst isProgram
    simp only [extendedMatcher?,bind,Option.bind_eq_some_iff] at lowered
    obtain ⟨e,parsed,lowered⟩ := lowered
    split at lowered
    · obtain ⟨_,_,same⟩ := Option.map_eq_some_iff.mp lowered
      contradiction
    · obtain ⟨q,lowered,same⟩ := Option.map_eq_some_iff.mp lowered
      cases same
      refine Extended.lower?_keepsOut false e lowered ?_
      simpa [keepsOutBehind,refused,parsed] using free

theorem compile?_source {source : Text} {pattern : Pattern}
    (accepted : compile? source = some pattern) : pattern.source = source := by
  simp only [compile?] at accepted
  split at accepted
  · cases accepted
    rfl
  · obtain ⟨_,_,rfl⟩ := Option.map_eq_some_iff.mp accepted
    rfl

/-- Without a `\K` in a positive look-behind matches do not start before the search. -/
theorem le_start_of_search {source : Text} {pattern : Pattern}
    (accepted : compile? source = some pattern) (free : keepsOutBehind source = false)
    {text : Text} {offset : Nat} {m : Span} (found : pattern.search text offset = .ok (some m)) :
    offset ≤ m.start := by
  obtain ⟨place,_,rfl,answer⟩ := exists_place_of_search found
  cases isMatcher : pattern.matcher with
  | program p =>
    rw [isMatcher] at answer
    exact Program.search_start answer (keepsOut_of_compile? accepted free isMatcher)
  | regular e =>
    rw [isMatcher] at answer
    obtain ⟨first,last,toFirst,_,rfl⟩ := Regular.search?_eq_some (Except.ok.inj answer)
    exact toFirst.offset

theorem strays_of_any {source : Text} {pattern : Pattern}
    (accepted : compile? source = some pattern) (free : (compile? source).any strays = false) :
    pattern.strays = false := by
  simpa [accepted] using free

theorem search_wellFormed {source : Text} {pattern : Pattern}
    (accepted : compile? source = some pattern) (free : pattern.strays = false) :
    pattern.search.WellFormed := by
  intro text offset boundary
  rw [strays,compile?_source accepted,Bool.or_eq_false_iff] at free
  cases answer : pattern.search text offset with
  | error fault => exact absurd answer (search_ne_error free.2 text offset fault)
  | ok answer' =>
    refine ⟨answer',rfl,?_⟩
    rintro m ⟨⟩
    exact ⟨le_start_of_search accepted free.1 answer,
      (pattern.search_sound text offset m boundary answer).2⟩

end

theorem findAll_fits {pattern : Pattern} {text : Text} {spans : List Span}
    (returned : pattern.findAll text = .ok spans) :
    (∀ m ∈ spans, m.Fits text) ∧ spans.Pairwise (fun a b => a.stop ≤ b.stop) := by
  have run := Scan.from?_run _ _ _ _ spans returned
  obtain ⟨fits,sorted⟩ := run.fits pattern.search_sound fun _ => text.isBoundary_zero
  exact ⟨fun m member => (fits m member).2,sorted⟩

/-- The scan of an accepted pattern ends exactly if every search of it has an answer, and none is a
match that starts before the offset of its search and ends there: that match hands the same offset
to the next search, and every other one hands on a greater offset. A scan that ends has at most one
match for each character and one more. Only a `\K` in a positive look-behind can make a scan endless,
and only a reference inside the group that it refers to can leave a search without an answer. -/
theorem findAll_ends_iff [Libraries] {source : Text} {pattern : Pattern}
    (accepted : compile? source = some pattern) (text : Text) :
    (∀ spans, pattern.findAll text = .ok spans ↔ Scan.Run pattern.search text 0 spans) ∧
    ((∃ spans, Scan.Run pattern.search text 0 spans) ↔
      ∀ offset, Scan.Visits pattern.search text offset →
        ∃ answer, pattern.search text offset = .ok answer ∧
          ∀ m ∈ answer, ¬ (m.start < offset ∧ m.stop = offset)) ∧
    (pattern.findAll text = .error .endless ↔
      ∃ offset m, Scan.Visits pattern.search text offset ∧
        pattern.search text offset = .ok (some m) ∧ m.start < offset ∧ m.stop = offset) ∧
    (∀ fault, pattern.findAll text = .error (.search fault) ↔
      ∃ offset, Scan.Visits pattern.search text offset ∧
        pattern.search text offset = .error fault) ∧
    (∀ offset m, Scan.Visits pattern.search text offset →
      pattern.search text offset = .ok (some m) →
      ∃ next, Scan.resume? text m = some next ∧ offset ≤ next ∧
        (next = offset ↔ m.start < offset ∧ m.stop = offset)) ∧
    (∀ spans, Scan.Run pattern.search text 0 spans → spans.length ≤ text.length + 1) ∧
    (keepsOutBehind source = false → pattern.findAll text ≠ .error .endless) ∧
    (pattern.refersInside = false → ∀ fault, pattern.findAll text ≠ .error (.search fault)) ∧
    (pattern.strays = false → ∃ spans, Scan.Run pattern.search text 0 spans) := by
  have sound := pattern.search_sound
  have ok_iff (spans) := Scan.findAll_eq_ok_iff sound text spans
  have endless_iff := Scan.findAll_eq_endless_iff sound text
  have search_iff := Scan.findAll_eq_search_iff sound text
  refine ⟨ok_iff,Scan.ends_iff sound text,endless_iff,search_iff,?_,?_,?_,?_,?_⟩
  · intro offset m visits found
    obtain ⟨next,further,step⟩ := visits.step sound found
    exact ⟨next,further,Nat.le_trans step.notBefore step.onward,step.stays_iff⟩
  · intro spans run
    exact run.length_le sound text.nil_append.symm rfl
  · intro free endless
    obtain ⟨offset,m,_,found,before,_⟩ := endless_iff.mp endless
    exact absurd (le_start_of_search accepted free found) (by omega)
  · intro free fault failed
    obtain ⟨offset,_,found⟩ := (search_iff fault).mp failed
    exact search_ne_error free text offset fault found
  · intro free
    obtain ⟨spans,returned,_⟩ := Scan.findAll_laid (search_wellFormed accepted free) text
    exact ⟨spans,(ok_iff spans).mp returned⟩

/-- A look-behind and a `\K`, but none in the other. -/
theorem findAll_ends_beside :
    ∃ pattern, compile? "(?<=a)|b\\K".toList = some pattern ∧
      keepsOutBehind "(?<=a)|b\\K".toList = false ∧ pattern.refersInside = false ∧
      ∃ spans, Scan.Run pattern.search ['a','b','é'] 0 spans ∧ spans.length ≤ 4 := by
  have facts : (compile? "(?<=a)|b\\K".toList).map (·.refersInside) = some false := by
    decide +kernel
  have free : keepsOutBehind "(?<=a)|b\\K".toList = false := by decide +kernel
  obtain ⟨pattern,accepted,closed⟩ := Option.map_eq_some_iff.mp facts
  obtain ⟨_,_,_,_,_,bound,_,_,ends⟩ := findAll_ends_iff accepted ['a','b','é']
  obtain ⟨spans,run⟩ := ends (by rw [strays,compile?_source accepted,free,closed]; rfl)
  exact ⟨pattern,accepted,free,closed,spans,run,bound spans run⟩

/-- The scan of the text `a` for a look-behind that moves the start of the match to its own start
comes back to the end of the text again and again. -/
theorem findAll_keepsOutBehind_endless :
    ∃ pattern, compile? "(?<=\\Ka)".toList = some pattern ∧
      pattern.search ['a'] 0 = .ok (some ⟨0,1⟩) ∧ Scan.resume? ['a'] ⟨0,1⟩ = some 1 ∧
      pattern.search ['a'] 1 = .ok (some ⟨0,1⟩) ∧ ¬ ∃ spans, Scan.Run pattern.search ['a'] 0 spans := by
  have facts : ((compile? "(?<=\\Ka)".toList).map fun pattern =>
      (pattern.search ['a'] 0,pattern.search ['a'] 1)) =
      some (.ok (some ⟨0,1⟩),.ok (some ⟨0,1⟩)) := by decide +kernel
  obtain ⟨pattern,accepted,both⟩ := Option.map_eq_some_iff.mp facts
  obtain ⟨first,second⟩ := Prod.mk.inj both
  refine ⟨pattern,accepted,first,rfl,second,?_⟩
  rintro ⟨spans,run⟩
  have visits : Scan.Visits pattern.search ['a'] 1 := .next .start first rfl (by decide)
  have endless := (Scan.findAll_eq_endless_iff pattern.search_sound ['a']).mpr
    ⟨1,⟨0,1⟩,visits,second,by decide,rfl⟩
  rw [(Scan.findAll_eq_ok_iff pattern.search_sound ['a'] spans).mpr run] at endless
  cases endless

end Pattern

/-- Spans each of which starts at the end of the one before it, or later. -/
def Span.Apart (spans : List Span) : Prop := spans.Pairwise fun a b => a.stop ≤ b.start

namespace Rule

/-- The rule is applied to the plain fragment `run`, which the rules before it in the list have
left of the text. -/
def Meets (rules : List Rule) (text : Text) (rule : Rule) (run : Text) : Prop :=
  ∃ k fragments, rules[k]? = some rule ∧ segment (rules.take k) text = .ok fragments ∧
    .plain run ∈ fragments

theorem laid_iff_apart {rule : Rule} {run : Text} {spans : List Span}
    (returned : rule.pattern.findAll run = .ok spans) : Laid run 0 spans ↔ Span.Apart spans := by
  obtain ⟨fits,_⟩ := Pattern.findAll_fits returned
  exact ⟨Laid.disjoint,fun apart => ⟨fits,fun _ _ => Nat.zero_le _,apart⟩⟩

/-- A rule divides a text exactly if its scan ends with matches apart from each other. -/
theorem split_ok_iff_apart (rule : Rule) (run : Text) :
    (∃ fragments, rule.split run = .ok fragments) ↔
      ∃ spans, rule.pattern.findAll run = .ok spans ∧ Span.Apart spans := by
  rw [split,Marker.split_ok_iff]
  constructor
  · rintro ⟨spans,returned,laid⟩
    exact ⟨spans,returned,(laid_iff_apart returned).mp laid⟩
  · rintro ⟨spans,returned,apart⟩
    exact ⟨spans,returned,(laid_iff_apart returned).mpr apart⟩

/-- A rule that cannot divide a text has no end of its scan, or finds matches that are not apart. -/
theorem fault_of_split {rule : Rule} {run : Text} {fault : ScanFault}
    (failed : rule.split run = .error fault) :
    (fault ≠ .noSuchPart ∧ rule.pattern.findAll run = .error fault) ∨
    (fault = .noSuchPart ∧
      ∃ spans, rule.pattern.findAll run = .ok spans ∧ ¬ Span.Apart spans) := by
  cases result : rule.pattern.findAll run with
  | ok spans =>
    refine .inr ⟨?_,spans,rfl,fun apart => ?_⟩
    · have scan : Scan.findAll rule.marker.search run = .ok spans := result
      rw [split,Marker.split,scan] at failed
      exact Marker.divide_eq_error failed
    · obtain ⟨fragments,divided⟩ := (rule.split_ok_iff_apart run).mpr ⟨spans,result,apart⟩
      rw [failed] at divided
      contradiction
  | error fault' =>
    have scan : Scan.findAll rule.marker.search run = .error fault' := result
    rw [split,Marker.split,scan] at failed
    cases failed
    refine .inl ⟨fun same => ?_,rfl⟩
    subst same
    exact Scan.findAll_ne_noSuchPart rule.pattern.search_sound run result

theorem meets_of_markers {rules : List Rule} {text run : Text} {k : Nat} {marker : Marker}
    {fragments : List Fragment} (atIndex : (rules.map Rule.marker)[k]? = some marker)
    (before : Highlighting.segment text ((rules.map Rule.marker).take k) = .ok fragments)
    (member : .plain run ∈ fragments) :
    ∃ rule, marker = rule.marker ∧ Meets rules text rule run := by
  rw [List.getElem?_map,Option.map_eq_some_iff] at atIndex
  obtain ⟨rule,atIndex,rfl⟩ := atIndex
  rw [← List.map_take] at before
  exact ⟨rule,rfl,k,fragments,atIndex,before,member⟩

theorem segment_ok_iff_apart (rules : List Rule) (text : Text) :
    (∃ fragments, segment rules text = .ok fragments) ↔
      ∀ rule run, Meets rules text rule run →
        ∃ spans, rule.pattern.findAll run = .ok spans ∧ Span.Apart spans := by
  rw [segment,segment_ok_iff]
  constructor
  · rintro divides rule run ⟨k,fragments,atIndex,before,member⟩
    rw [segment,List.map_take] at before
    exact (rule.split_ok_iff_apart run).mp
      (divides k rule.marker fragments run (by simp [atIndex]) before member)
  · intro apart k marker fragments run atIndex before member
    obtain ⟨rule,rfl,meets⟩ := meets_of_markers atIndex before member
    exact (rule.split_ok_iff_apart run).mpr (apart rule run meets)

/-- Some rule has met what a segmentation fails with. -/
theorem fault_of_segment {rules : List Rule} {text : Text} {fault : ScanFault}
    (failed : segment rules text = .error fault) :
    ∃ rule run, Meets rules text rule run ∧
      ((fault ≠ .noSuchPart ∧ rule.pattern.findAll run = .error fault) ∨
      (fault = .noSuchPart ∧
        ∃ spans, rule.pattern.findAll run = .ok spans ∧ ¬ Span.Apart spans)) := by
  obtain ⟨k,marker,fragments,run,atIndex,before,member,fails⟩ := segment_eq_error failed
  obtain ⟨rule,rfl,meets⟩ := meets_of_markers atIndex before member
  exact ⟨rule,run,meets,fault_of_split fails⟩

section

variable [Libraries] {rule : Rule}

theorem findAll_apart (accepted : Pattern.compile? rule.pattern.source = some rule.pattern)
    (free : rule.pattern.strays = false) (run : Text) :
    ∃ spans, rule.pattern.findAll run = .ok spans ∧ Span.Apart spans := by
  have wellFormed := Pattern.search_wellFormed accepted free
  obtain ⟨spans,returned,laid⟩ := Scan.findAll_laid wellFormed run
  exact ⟨spans,returned,laid.disjoint⟩

/-- What is asked of the searches of rules holds of rules whose patterns do not stray. -/
theorem wellFormed_of_compile? {name pattern color : Text}
    (compiled : compile? name pattern color = some rule)
    (free : (Pattern.compile? pattern).any Pattern.strays = false) :
    rule.pattern.search.WellFormed := by
  obtain ⟨p,accepted,rfl⟩ := Option.map_eq_some_iff.mp compiled
  exact Pattern.search_wellFormed accepted (Pattern.strays_of_any accepted free)

end

theorem segment_ok_of_wellFormed {rules : List Rule}
    (wellFormed : ∀ rule ∈ rules, rule.pattern.search.WellFormed) (text : Text) :
    ∃ fragments, segment rules text = .ok fragments := by
  apply refine_ok_of_wellFormed
  intro marker member
  obtain ⟨rule,isRule,rfl⟩ := List.mem_map.mp member
  exact wellFormed rule isRule

end Rule

theorem highlight_ok_iff_segment (format : Format) (rules : List Rule) (text : Text) :
    (∃ output, highlight format rules text = .ok output) ↔
      ∃ fragments, Rule.segment rules text = .ok fragments := by
  rw [highlight]
  cases Rule.segment rules text <;> simp [Except.map]

theorem segment_eq_error_of_highlight {format : Format} {rules : List Rule} {text : Text}
    {fault : ScanFault} (failed : highlight format rules text = .error fault) :
    Rule.segment rules text = .error fault := by
  rw [highlight] at failed
  cases result : Rule.segment rules text with
  | ok fragments => rw [result] at failed; contradiction
  | error fault' => rw [result] at failed; cases failed; rfl

/-- The matches of a rule are parts of the text in the order of their ends, and the text can be
cut along them exactly if they are apart. A text is highlighted exactly if the scans of all plain
fragments that a rule meets end with matches apart from each other. It fails as the scan of such a
fragment does, or, where a part that does not exist is asked for, because matches of it overlap.
Rules whose patterns do not stray never fail. -/
theorem highlight_ok_iff_apart [Libraries] {rules : List Rule}
    (accepted : ∀ rule ∈ rules, Pattern.compile? rule.pattern.source = some rule.pattern)
    (format : Format) (text : Text) :
    (∀ rule ∈ rules, ∀ run spans, rule.pattern.findAll run = .ok spans →
      (∀ m ∈ spans, m.Fits run) ∧ spans.Pairwise (fun a b => a.stop ≤ b.stop) ∧
      ((∃ fragments, rule.split run = .ok fragments) ↔ Span.Apart spans)) ∧
    ((∃ fragments, Rule.segment rules text = .ok fragments) ↔
      ∀ rule run, Rule.Meets rules text rule run →
        ∃ spans, rule.pattern.findAll run = .ok spans ∧ Span.Apart spans) ∧
    ((∃ output, highlight format rules text = .ok output) ↔
      ∃ fragments, Rule.segment rules text = .ok fragments) ∧
    (∀ fault, highlight format rules text = .error fault →
      ∃ rule run, Rule.Meets rules text rule run ∧
        ((fault ≠ .noSuchPart ∧ rule.pattern.findAll run = .error fault) ∨
        (fault = .noSuchPart ∧
          ∃ spans, rule.pattern.findAll run = .ok spans ∧ ¬ Span.Apart spans))) ∧
    ((∀ rule ∈ rules, rule.pattern.strays = false) →
      (∀ rule ∈ rules, ∀ run, ∃ spans,
        rule.pattern.findAll run = .ok spans ∧ Span.Apart spans) ∧
      ∃ output, highlight format rules text = .ok output) := by
  refine ⟨?_,Rule.segment_ok_iff_apart rules text,highlight_ok_iff_segment format rules text,?_,?_⟩
  · intro rule _ run spans returned
    obtain ⟨fits,sorted⟩ := Pattern.findAll_fits returned
    refine ⟨fits,sorted,?_⟩
    rw [rule.split_ok_iff_apart run]
    simp [returned]
  · intro fault failed
    exact Rule.fault_of_segment (segment_eq_error_of_highlight failed)
  · intro free
    have apart (rule : Rule) (member : rule ∈ rules) :=
      Rule.findAll_apart (accepted rule member) (free rule member)
    refine ⟨apart,(highlight_ok_iff_segment format rules text).mpr ?_⟩
    refine (Rule.segment_ok_iff_apart rules text).mpr ?_
    rintro rule run ⟨k,_,atIndex,_⟩
    exact apart rule (List.mem_of_getElem? atIndex) run

/-- A `\K` outside of look-behinds does no harm, nor does a reference behind its group. -/
theorem highlight_ok_beside :
    ∃ rule, Rule.compile? ['a'] "(?<=a)|(b)\\1\\K".toList ['r','e','d'] = some rule ∧
      ∃ output, highlight .html [rule] ['a','b','b','é'] = .ok output := by
  have accepts : ((Rule.compile? ['a'] "(?<=a)|(b)\\1\\K".toList ['r','e','d']).map fun rule =>
      rule.pattern.strays) = some false := by decide +kernel
  obtain ⟨rule,compiled,free⟩ := Option.map_eq_some_iff.mp accepts
  have accepted : ∀ r ∈ [rule], Pattern.compile? r.pattern.source = some r.pattern := by
    intro r member
    rw [List.mem_singleton.mp member]
    obtain ⟨pattern,accepted,rfl⟩ := Option.map_eq_some_iff.mp compiled
    rw [Pattern.compile?_source accepted,accepted]
  obtain ⟨_,_,_,_,total⟩ := highlight_ok_iff_apart accepted .html ['a','b','b','é']
  obtain ⟨_,ok⟩ := total (by simpa using free)
  exact ⟨rule,compiled,ok⟩

/-- The second match of the look-behind starts where the first match does. The text cannot be cut
between the end of the one and the start of the other. -/
theorem highlight_keepsOutBehind_overlap :
    ∃ rule, Rule.compile? ['a'] "a|(?<=\\Ka)b".toList ['r','e','d'] = some rule ∧
      rule.pattern.findAll ['a','b'] = .ok [⟨0,1⟩,⟨0,2⟩] ∧ ¬ Span.Apart [⟨0,1⟩,⟨0,2⟩] ∧
      rule.split ['a','b'] = .error .noSuchPart ∧
      highlight .html [rule] ['a','b'] = .error .noSuchPart := by
  have facts : ((Rule.compile? ['a'] "a|(?<=\\Ka)b".toList ['r','e','d']).map fun rule =>
      (rule.pattern.findAll ['a','b'],rule.split ['a','b'],highlight .html [rule] ['a','b'])) =
      some (.ok [⟨0,1⟩,⟨0,2⟩],.error .noSuchPart,.error .noSuchPart) := by decide +kernel
  obtain ⟨rule,compiled,answers⟩ := Option.map_eq_some_iff.mp facts
  obtain ⟨spans,answers⟩ := Prod.mk.inj answers
  obtain ⟨parts,output⟩ := Prod.mk.inj answers
  exact ⟨rule,compiled,spans,by simp [Span.Apart],parts,output⟩

end Highlighting
