import Highlighting.Proofs.Composition

/-! What one rule more changes. In each plain fragment that the rules before it have left it claims its
matches, and nothing else: a match adds a styled fragment, at its own range, and one plain fragment.
Where the rule matches nothing it leaves every fragment as it is, the empty ones included, so that the
rules behind it and every renderer go on as without it. -/
namespace Highlighting

def Span.shift (offset : Nat) (m : Span) : Span := ⟨offset + m.start,offset + m.stop⟩

namespace Fragment

/-- The matches in the plain fragments, each moved by the offset of its fragment; the first fragment
begins at `start`. -/
@[simp] def matchesFrom (matched : Text → List Span) (start : Nat) : List Fragment → List Span
  | [] => []
  | .plain text :: rest =>
    (matched text).map (Span.shift start) ++ matchesFrom matched (start + text.bytes) rest
  | .styled text _ :: rest => matchesFrom matched (start + text.bytes) rest

/-- The byte ranges and colors of the styled fragments, where the first fragment begins at `start`. -/
@[simp] def claimsFrom (start : Nat) : List Fragment → List (Span × Text)
  | [] => []
  | .plain text :: rest => claimsFrom (start + text.bytes) rest
  | .styled text color :: rest =>
    (⟨start,start + text.bytes⟩,color) :: claimsFrom (start + text.bytes) rest

theorem claimsFrom_append (start : Nat) (first second : List Fragment) :
    claimsFrom start (first ++ second) =
      claimsFrom start first ++ claimsFrom (start + (concat first).bytes) second := by
  induction first generalizing start with
  | nil => simp
  | cons f rest ih => cases f <;> simp [ih,Fragment.text,Nat.add_assoc]

theorem matchesFrom_eq_nil_iff {matched : Text → List Span} {start : Nat} {fragments : List Fragment} :
    matchesFrom matched start fragments = [] ↔ ∀ run, .plain run ∈ fragments → matched run = [] := by
  induction fragments generalizing start with
  | nil => simp
  | cons f rest ih => cases f <;> simp [ih,or_imp,forall_and]

end Fragment

open Fragment

namespace Marker

namespace Divided

variable {color rest : Text} {start : Nat} {spans : List Span} {fragments : List Fragment}

theorem length_eq (divided : Divided color start rest spans fragments) :
    fragments.length = 2 * spans.length + 1 := by
  induction divided with
  | done => rfl
  | part _ _ _ ih => simp only [List.length_cons,ih]; omega

/-- What is claimed of a text lies, in a text with `offset` more bytes in front, that much later. -/
theorem claimsFrom_eq (divided : Divided color start rest spans fragments) (offset : Nat) :
    claimsFrom (offset + start) fragments = spans.map fun m => (m.shift offset,color) := by
  induction divided with
  | done => rfl
  | @part start m ms rest more gap claimed gapSize claimedSize _ ih =>
    have first : offset + start + gap.bytes = offset + m.start := by omega
    have behind : offset + m.start + claimed.bytes = offset + m.stop := by omega
    simp only [claimsFrom,first,behind,ih,List.map_cons,Span.shift]

end Divided

variable {marker : Marker} {matched : Text → List Span}
  (finds : ∀ run, Scan.findAll marker.search run = .ok (matched run))

include finds

theorem divided_of_finds {run : Text} {parts : List Fragment} (divided : marker.split run = .ok parts) :
    Divided marker.color 0 run (matched run) parts := by
  obtain ⟨spans,returned,divided⟩ := (split_eq_ok_iff marker run parts).mp divided
  cases (finds run).symm.trans returned
  exact divided

theorem split_of_idle {run : Text} (idle : matched run = []) : marker.split run = .ok [.plain run] :=
  (split_eq_ok_iff marker run _).mpr ⟨[],idle ▸ finds run,.done⟩

theorem apply_of_idle {fragments : List Fragment}
    (idle : ∀ run, .plain run ∈ fragments → matched run = []) :
    marker.apply fragments = .ok fragments := by
  refine (marker.apply_eq_ok_iff _ _).mpr ?_
  induction fragments with
  | nil => exact .nil
  | cons f rest ih =>
    have later := ih fun run member => idle run (List.mem_cons_of_mem f member)
    cases f with
    | plain run => exact .plain (split_of_idle finds (idle run List.mem_cons_self)) later
    | styled text color => exact .styled later

namespace Refined

variable {fragments result : List Fragment}

theorem length_eq (refined : Refined marker fragments result) (start : Nat) :
    result.length = fragments.length + 2 * (matchesFrom matched start fragments).length := by
  induction refined generalizing start with
  | nil => rfl
  | @plain run parts rest more divided _ ih =>
    have length := (divided_of_finds finds divided).length_eq
    simp only [List.length_append,List.length_cons,List.length_map,matchesFrom,length,
      ih (start + run.bytes)]
    omega
  | @styled text color rest more _ ih =>
    simp only [List.length_cons,matchesFrom,ih (start + text.bytes)]
    omega

theorem claimsFrom_perm (refined : Refined marker fragments result) (start : Nat) :
    (claimsFrom start result).Perm (claimsFrom start fragments ++
      (matchesFrom matched start fragments).map fun m => (m,marker.color)) := by
  induction refined generalizing start with
  | nil => exact .nil
  | @plain run parts rest more divided _ ih =>
    have claims := (divided_of_finds finds divided).claimsFrom_eq start
    rw [Nat.add_zero] at claims
    rw [claimsFrom_append,claims,concat_of_split divided]
    -- The matches of the first run stand in front; among the new claims they are the first, too.
    simp only [claimsFrom,matchesFrom,List.map_append,List.map_map]
    exact ((ih (start + run.bytes)).append_left _).trans (List.perm_append_comm_assoc _ _ _)
  | styled _ ih =>
    simp only [claimsFrom,matchesFrom,List.cons_append]
    exact (ih _).cons _

end Refined

end Marker

theorem segment_without {text : Text} {markers : List Marker} {marker : Marker}
    {fragments : List Fragment} (before : segment text markers = .ok fragments)
    (same : marker.apply fragments = .ok fragments) (more : List Marker) :
    segment text (markers ++ marker :: more) = segment text (markers ++ more) := by
  rw [segment] at before
  rw [segment,segment,refine_append,refine_append,before]
  simp only [Except.bind,refine,same]

/-- One rule more changes a segmentation by its matches and nothing else, empty matches included. For
each match in a plain fragment that the rules before it leave, there is one styled fragment more, at
the range of the match moved by the offset of that fragment, and two fragments more in all. So the
fragments stay as they are exactly if it matches in none of them; then, whatever rules follow, the
segmentation and the output of every renderer are those without it. -/
theorem rule_adds_its_matches (earlier later : List Rule) (rule : Rule) (text : Text)
    (wellFormed : ∀ r ∈ earlier ++ rule :: later, r.pattern.search.WellFormed) :
    ∃ (matched : Text → List Span) (before after : List Fragment),
      (∀ run, rule.pattern.findAll run = .ok (matched run)) ∧
      Rule.segment earlier text = .ok before ∧
      Rule.segment (earlier ++ [rule]) text = .ok after ∧
      after.length = before.length + 2 * (matchesFrom matched 0 before).length ∧
      (claimsFrom 0 after).Perm (claimsFrom 0 before ++
        (matchesFrom matched 0 before).map fun m => (m,rule.color)) ∧
      (after = before ↔ ∀ run, .plain run ∈ before → matched run = []) ∧
      ((∀ run, .plain run ∈ before → matched run = []) →
        (∃ fragments, Rule.segment (earlier ++ rule :: later) text = .ok fragments ∧
          Rule.segment (earlier ++ later) text = .ok fragments) ∧
        ∀ renderer : Renderer, highlightWith renderer (earlier ++ rule :: later) text =
          highlightWith renderer (earlier ++ later) text) := by
  have ownWellFormed : rule.marker.search.WellFormed := wellFormed rule (by simp)
  obtain ⟨matched,finds⟩ := Classical.skolem.mp fun run =>
    (Scan.findAll_laid ownWellFormed run).imp fun _ => And.left
  obtain ⟨before,returned⟩ := Rule.segment_ok_of_wellFormed
    (fun r member => wellFormed r (List.mem_append_left _ member)) text
  obtain ⟨after,applied⟩ := (rule.marker.apply_ok_iff before).mpr fun run _ =>
    Marker.split_ok_of_wellFormed ownWellFormed run
  have refined := (rule.marker.apply_eq_ok_iff before after).mp applied
  have extended : Rule.segment (earlier ++ [rule]) text = .ok after := by
    rw [Rule.segment] at returned
    rw [Rule.segment,List.map_append,segment,refine_append,← segment,returned]
    simp only [Except.bind,List.map_cons,List.map_nil,refine,applied]
  have length := refined.length_eq finds 0
  have idle (nowhere : ∀ run, .plain run ∈ before → matched run = []) :=
    Marker.apply_of_idle finds nowhere
  refine ⟨matched,before,after,finds,returned,extended,length,refined.claimsFrom_perm finds 0,
    ⟨fun same => ?_,fun nowhere => ?_⟩,fun nowhere => ?_⟩
  · have none : matchesFrom matched 0 before = [] := by
      rw [same] at length
      exact List.length_eq_zero_iff.mp (by omega)
    exact matchesFrom_eq_nil_iff.mp none
  · exact Except.ok.inj (applied.symm.trans (idle nowhere))
  · have without : Rule.segment (earlier ++ rule :: later) text =
        Rule.segment (earlier ++ later) text := by
      simp only [Rule.segment,List.map_append,List.map_cons]
      exact segment_without returned (idle nowhere) _
    obtain ⟨fragments,all⟩ := Rule.segment_ok_of_wellFormed wellFormed text
    exact ⟨⟨fragments,all,without ▸ all⟩,fun renderer => by rw [highlightWith,without,highlightWith]⟩

/-- The second rule matches nothing at the ends of the fragments, too; the third one matches in none of
them. -/
theorem rule_adds_its_matches_empty :
    ∃ first rule idle, Rule.compile? ['a'] ['a'] ['r','e','d'] = some first ∧
      Rule.compile? ['b'] ['b','*'] ['b','l','u','e'] = some rule ∧
      Rule.compile? ['z'] ['z'] ['c','y','a','n'] = some idle ∧
      (∀ r ∈ [first] ++ rule :: [idle], r.pattern.search.WellFormed) ∧
      (∀ r ∈ [first] ++ idle :: [rule], r.pattern.search.WellFormed) ∧
      (∃ before after, Rule.segment [first] ['a','é','b'] = .ok before ∧
        Rule.segment ([first] ++ [rule]) ['a','é','b'] = .ok after ∧
        after.length = before.length + 2 * 4 ∧
        (claimsFrom 0 after).Perm (claimsFrom 0 before ++
          [(⟨0,0⟩,['b','l','u','e']),(⟨1,1⟩,['b','l','u','e']),(⟨3,4⟩,['b','l','u','e']),
            (⟨4,4⟩,['b','l','u','e'])])) ∧
      Rule.segment ([first] ++ idle :: [rule]) ['a','é','b'] =
        Rule.segment ([first] ++ [rule]) ['a','é','b'] := by
  have facts : ((Rule.compile? ['a'] ['a'] ['r','e','d']).bind fun first =>
      (Rule.compile? ['b'] ['b','*'] ['b','l','u','e']).bind fun rule =>
        (Rule.compile? ['z'] ['z'] ['c','y','a','n']).map fun idle =>
          (Rule.segment [first] ['a','é','b'],
            [rule.pattern.findAll [],rule.pattern.findAll ['é','b'],
              idle.pattern.findAll [],idle.pattern.findAll ['é','b']],rule.color)) =
      some (.ok [.plain [],.styled ['a'] ['r','e','d'],.plain ['é','b']],
        [.ok [⟨0,0⟩],.ok [⟨0,0⟩,⟨2,3⟩,⟨3,3⟩],.ok [],.ok []],['b','l','u','e']) := by
    decide
  have free : (Pattern.compile? ['a']).any Pattern.strays = false ∧
      (Pattern.compile? ['b','*']).any Pattern.strays = false ∧
      (Pattern.compile? ['z']).any Pattern.strays = false := by
    decide
  obtain ⟨first,compiled,facts⟩ := Option.bind_eq_some_iff.mp facts
  obtain ⟨rule,compiled',facts⟩ := Option.bind_eq_some_iff.mp facts
  obtain ⟨idle,compiled'',facts⟩ := Option.map_eq_some_iff.mp facts
  simp only [Prod.mk.injEq,List.cons.injEq,and_true] at facts
  obtain ⟨divided,⟨atStart,behind,nothing,nowhere⟩,blue⟩ := facts
  have wellFormed : ∀ r ∈ [first,rule,idle], r.pattern.search.WellFormed := by
    simp only [List.forall_mem_cons,List.not_mem_nil,false_implies,implies_true,and_true]
    exact ⟨Rule.wellFormed_of_compile? compiled free.1,
      Rule.wellFormed_of_compile? compiled' free.2.1,
      Rule.wellFormed_of_compile? compiled'' free.2.2⟩
  have swapped : ∀ r ∈ [first,idle,rule], r.pattern.search.WellFormed := by
    intro r member
    exact wellFormed r (by simpa [or_comm,or_left_comm] using member)
  refine ⟨first,rule,idle,compiled,compiled',compiled'',wellFormed,swapped,?_,?_⟩
  · obtain ⟨matched,before,after,finds,returned,extended,length,claims,_⟩ :=
      rule_adds_its_matches [first] [idle] rule ['a','é','b'] wellFormed
    cases divided.symm.trans returned
    have one := Except.ok.inj ((finds []).symm.trans atStart)
    have three := Except.ok.inj ((finds ['é','b']).symm.trans behind)
    refine ⟨_,after,divided,extended,?_,?_⟩
    · simpa [one,three] using length
    · simpa [one,three,blue,Span.shift,show 'a'.utf8Size = 1 from rfl] using claims
  · obtain ⟨matched,before,after,finds,returned,_,_,_,_,without⟩ :=
      rule_adds_its_matches [first] [rule] idle ['a','é','b'] swapped
    cases divided.symm.trans returned
    obtain ⟨⟨fragments,all,fewer⟩,_⟩ := without fun run member => by
      rcases (by simpa using member : run = [] ∨ run = ['é','b']) with rfl | rfl
      · exact Except.ok.inj ((finds _).symm.trans nothing)
      · exact Except.ok.inj ((finds _).symm.trans nowhere)
    exact all.trans fewer.symm

end Highlighting
