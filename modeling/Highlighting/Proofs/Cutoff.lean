import Mathlib.Control.Monad.Basic
import Highlighting.Proofs.Budget
import Highlighting.Proofs.Composition

/-! A search that gives up. Where it does, the scan ends, so the matches of a search that gives up more
often are the first ones of those of the other. A marker then divides the text in the same way up to
the last of them and leaves all behind it as one plain fragment, which later markers divide as a text
of its own. -/
namespace Highlighting

namespace Search

/-- At every place the weaker search answers what the other one answers, or nothing. -/
def Weakens (weaker search : Search) : Prop :=
  ∀ text offset, weaker text offset = search text offset ∨ weaker text offset = .ok none

theorem Weakens.wellFormed {weaker search : Search} (weakens : weaker.Weakens search)
    (wellFormed : search.WellFormed) : weaker.WellFormed := by
  intro text offset boundary
  rcases weakens text offset with same | none
  · rw [same]
    exact wellFormed text offset boundary
  · exact ⟨_,none,by simp⟩

end Search

namespace Scan

variable {weaker search : Search} {text : Text}

theorem from?_weakens (weakens : weaker.Weakens search) (size fuel offset : Nat)
    (spans : List Span) (returned : from? search text size fuel offset = .ok spans) :
    ∃ first, from? weaker text size fuel offset = .ok first ∧ first <+: spans := by
  induction fuel generalizing offset spans with
  | zero => contradiction
  | succ fuel ih =>
    simp only [from?] at returned ⊢
    split
    · exact ⟨[],rfl,List.nil_prefix⟩
    next inside =>
      simp only [inside,if_false] at returned
      rcases weakens text offset with same | none
      · rw [same]
        rcases found : search text offset with fault | (_ | m)
        · rw [found] at returned
          contradiction
        · exact ⟨[],rfl,List.nil_prefix⟩
        · simp only [found] at returned ⊢
          cases further : resume? text m with
          | none => rw [further] at returned; contradiction
          | some next =>
            simp only [further] at returned ⊢
            obtain ⟨ms,later,rfl⟩ := map_eq_ok_iff.mp returned
            obtain ⟨first,short,isPrefix⟩ := ih next ms later
            exact ⟨m :: first,by rw [short]; rfl,(List.prefix_cons_inj m).mpr isPrefix⟩
      -- The weaker search gives up, and the scan with it.
      · rw [none]
        exact ⟨[],rfl,List.nil_prefix⟩

theorem findAll_weakens (weakens : weaker.Weakens search) {spans : List Span}
    (returned : findAll search text = .ok spans) :
    ∃ first, findAll weaker text = .ok first ∧ first <+: spans :=
  from?_weakens weakens _ _ 0 spans returned

end Scan

def Span.lastStop (start : Nat) : List Span → Nat
  | [] => start
  | m :: ms => lastStop m.stop ms

namespace Marker

variable {color : Text}

/-- A division along spans begins with that along the first ones, and goes on with a division of what
these leave as the last plain fragment. -/
theorem Divided.cut {start : Nat} {rest : Text} {first more : List Span} {fragments : List Fragment}
    (divided : Divided color start rest (first ++ more) fragments) :
    ∃ common tail left, fragments = common ++ tail ∧
      Divided color start rest first (common ++ [.plain left]) ∧
      Divided color (Span.lastStop start first) left more tail ∧
      start + (Fragment.concat common).bytes = Span.lastStop start first ∧
      common.length = 2 * first.length := by
  induction first generalizing start rest fragments with
  | nil => exact ⟨[],fragments,rest,rfl,.done,divided,rfl,rfl⟩
  | cons m first ih =>
    cases divided with
    | @part _ _ _ rest more gap claimed gapSize claimedSize later =>
      obtain ⟨common,tail,left,rfl,short,further,size,length⟩ := ih later
      refine ⟨.plain gap :: .styled claimed color :: common,tail,left,rfl,
        .part gapSize claimedSize short,further,?_,?_⟩
      · simp only [Fragment.concat_cons,Fragment.text,Text.bytes_append,Span.lastStop]
        omega
      · simp only [List.length_cons]
        omega

/-- Under a search that gives up more often a marker makes the same fragments up to the end of the last
match that is still found, and one plain fragment of the rest. -/
theorem split_weakens {weaker search : Search} (wellFormed : search.WellFormed)
    (weakens : weaker.Weakens search) (color text : Text) :
    ∃ spans first common tail rest,
      Scan.findAll search text = .ok spans ∧ Scan.findAll weaker text = .ok first ∧
      first <+: spans ∧ split ⟨search,color⟩ text = .ok (common ++ tail) ∧
      split ⟨weaker,color⟩ text = .ok (common ++ [.plain rest]) ∧
      Fragment.concat common ++ rest = text ∧
      (Fragment.concat common).bytes = Span.lastStop 0 first ∧
      common.length = 2 * first.length := by
  obtain ⟨fragments,full⟩ : ∃ fragments, split ⟨search,color⟩ text = .ok fragments :=
    split_ok_of_wellFormed wellFormed text
  obtain ⟨spans,returned,divided⟩ := (split_eq_ok_iff _ _ _).mp full
  obtain ⟨first,short,more,rfl⟩ := Scan.findAll_weakens weakens returned
  obtain ⟨common,tail,rest,rfl,divided',_,size,length⟩ := divided.cut
  have whole := divided'.concat
  simp only [Fragment.concat_append,Fragment.concat_cons,Fragment.concat_nil,Fragment.text,
    List.append_nil] at whole
  rw [Nat.zero_add] at size
  exact ⟨_,first,common,tail,rest,returned,short,List.prefix_append first more,full,
    (split_eq_ok_iff _ _ _).mpr ⟨first,short,divided'⟩,whole,size,length⟩

end Marker

theorem segment_cons_of_split {marker : Marker} {text : Text} {fragments : List Fragment}
    (divided : marker.split text = .ok fragments) (later : List Marker) :
    segment text (marker :: later) = refine fragments later := by
  simp [segment,refine,Marker.apply,divided,Except.bind,Except.map]

theorem Pattern.searchWithin_weakens (p : Pattern) {limit more : Nat} (le : limit ≤ more) :
    (p.searchWithin limit).Weakens (p.searchWithin more) := by
  obtain ⟨extra,rfl⟩ := Nat.exists_eq_add_of_le le
  exact p.searchWithin_steady limit extra

/-- A search that answers at every place what another one answers, or gives up, cuts the scan short
and does nothing else. Its matches are the first ones of those of the other search; a marker makes the
same fragments up to the end of the last one, and then a single plain fragment of the whole rest. All
later markers go through that rest as through a text of its own, wherever in a list the marker stands.
So with a higher limit a pattern has the matches that it has with a lower one, and then others. -/
theorem giving_up_cuts_short {search weaker : Search} (wellFormed : search.WellFormed)
    (weakens : weaker.Weakens search) (color : Text) :
    (∀ text, ∃ spans first common tail rest,
      Scan.findAll search text = .ok spans ∧ Scan.findAll weaker text = .ok first ∧
      first <+: spans ∧ Marker.split ⟨search,color⟩ text = .ok (common ++ tail) ∧
      Marker.split ⟨weaker,color⟩ text = .ok (common ++ [.plain rest]) ∧
      Fragment.concat common ++ rest = text ∧
      (Fragment.concat common).bytes = Span.lastStop 0 first ∧
      common.length = 2 * first.length ∧
      ∀ later result,
        (segment text (⟨search,color⟩ :: later) = .ok result ↔
          ∃ claimed others, refine common later = .ok claimed ∧
            refine tail later = .ok others ∧ claimed ++ others = result) ∧
        (segment text (⟨weaker,color⟩ :: later) = .ok result ↔
          ∃ claimed others, refine common later = .ok claimed ∧
            segment rest later = .ok others ∧ claimed ++ others = result)) ∧
    (∀ text before later,
      (∀ result, segment text (before ++ ⟨weaker,color⟩ :: later) = .ok result ↔
        ∃ fragments, segment text before = .ok fragments ∧
          Fragment.expand (segment · (⟨weaker,color⟩ :: later)) fragments = .ok result) ∧
      ((∀ marker ∈ before ++ later, marker.search.WellFormed) →
        ∃ result, segment text (before ++ ⟨weaker,color⟩ :: later) = .ok result)) ∧
    ∀ (p : Pattern) (limit more : Nat), limit ≤ more → ∀ text spans,
      Scan.findAll (p.searchWithin more) text = .ok spans →
        ∃ first, Scan.findAll (p.searchWithin limit) text = .ok first ∧ first <+: spans := by
  refine ⟨fun text => ?_,fun text before later => ⟨fun result => ?_,fun others => ?_⟩,?_⟩
  · obtain ⟨spans,first,common,tail,rest,returned,short,isPrefix,full,cut,content⟩ :=
      Marker.split_weakens wellFormed weakens color text
    refine ⟨spans,first,common,tail,rest,returned,short,isPrefix,full,cut,content.1,content.2.1,
      content.2.2,fun later result => ⟨?_,?_⟩⟩
    · rw [segment_cons_of_split full]
      exact refine_fragments_append common tail later result
    · rw [segment_cons_of_split cut]
      exact refine_fragments_append common [.plain rest] later result
  · exact segment_append_eq_ok_iff text before _ result
  · refine refine_ok_of_wellFormed (fun marker member => ?_) _
    rcases List.mem_append.mp member with inBefore | member
    · exact others marker (List.mem_append_left _ inBefore)
    · rcases List.mem_cons.mp member with rfl | inLater
      · exact weakens.wellFormed wellFormed
      · exact others marker (List.mem_append_right _ inLater)
  · intro p limit more le text spans returned
    exact Scan.findAll_weakens (p.searchWithin_weakens le) returned

/-- With a limit of two resumed choices the second match of a repetition is given up, and a later rule
divides all that stands behind the first one. -/
theorem giving_up_cuts_short_repetition :
    ∃ pattern later common tail,
      Pattern.compile? "(?:a(?!c))+b".toList = some pattern ∧
      Pattern.compile? ['z'] = some later ∧ pattern.search.WellFormed ∧
      (pattern.searchWithin 2).Weakens pattern.search ∧
      pattern.findAll ['a','b','z','a','b'] = .ok [⟨0,2⟩,⟨3,5⟩] ∧
      Scan.findAll (pattern.searchWithin 2) ['a','b','z','a','b'] = .ok [⟨0,2⟩] ∧
      Marker.split ⟨pattern.search,['r','e','d']⟩ ['a','b','z','a','b'] = .ok (common ++ tail) ∧
      Marker.split ⟨pattern.searchWithin 2,['r','e','d']⟩ ['a','b','z','a','b'] =
        .ok (common ++ [.plain ['z','a','b']]) ∧
      segment ['a','b','z','a','b'] [⟨pattern.searchWithin 2,['r','e','d']⟩,
        ⟨later.search,['b','l','u','e']⟩] =
        .ok [.plain [],.styled ['a','b'] ['r','e','d'],.plain [],.styled ['z'] ['b','l','u','e'],
          .plain ['a','b']] := by
  have facts : ((Pattern.compile? "(?:a(?!c))+b".toList).bind fun pattern =>
      (Pattern.compile? ['z']).map fun later =>
        ([pattern.findAll ['a','b','z','a','b'],
          Scan.findAll (pattern.searchWithin 2) ['a','b','z','a','b']],
        segment ['a','b','z','a','b'] [⟨pattern.searchWithin 2,['r','e','d']⟩,
          ⟨later.search,['b','l','u','e']⟩])) =
      some ([.ok [⟨0,2⟩,⟨3,5⟩],.ok [⟨0,2⟩]],
        .ok [.plain [],.styled ['a','b'] ['r','e','d'],.plain [],.styled ['z'] ['b','l','u','e'],
          .plain ['a','b']]) := by
    decide +kernel
  have free : (Pattern.compile? "(?:a(?!c))+b".toList).any Pattern.strays = false := by
    decide +kernel
  obtain ⟨pattern,compiled,facts⟩ := Option.bind_eq_some_iff.mp facts
  obtain ⟨later,compiled',facts⟩ := Option.map_eq_some_iff.mp facts
  simp only [Prod.mk.injEq,List.cons.injEq,and_true] at facts
  obtain ⟨⟨all,few⟩,divided⟩ := facts
  have wellFormed := Pattern.search_wellFormed compiled (Pattern.strays_of_any compiled free)
  have weakens : (pattern.searchWithin 2).Weakens pattern.search := by
    rw [pattern.search_eq_searchWithin]
    exact pattern.searchWithin_weakens (by decide)
  obtain ⟨cut,_⟩ := giving_up_cuts_short wellFormed weakens ['r','e','d']
  obtain ⟨_,first,common,tail,rest,_,short,_,full,part,content,size,_⟩ := cut ['a','b','z','a','b']
  cases few.symm.trans short
  have behind : some (['a','b'],['z','a','b']) = some (Fragment.concat common,rest) :=
    (Text.cut_eq_some_iff ['a','b','z','a','b'] 2 _ _).mpr ⟨content.symm,size⟩
  obtain ⟨_,rfl⟩ := Prod.mk.inj (Option.some.inj behind)
  exact ⟨pattern,later,common,tail,compiled,compiled',wellFormed,weakens,all,few,full,part,divided⟩

end Highlighting
