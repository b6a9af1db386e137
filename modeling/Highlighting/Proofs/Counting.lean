import Mathlib.Algebra.Group.Nat.Defs
import Highlighting.Proofs.Composition
import Highlighting.Proofs.Cover

/-! How many claims a segmentation holds. A marker claims something at most once before each character
of a plain fragment and once more at its end, be the fragment empty or not. Every claim leaves one plain
fragment more behind, so a later marker can meet more places than the text has. What is counted is
therefore claims and places of the text together: each marker doubles that at most. -/
namespace Highlighting

namespace Search

def Solid (search : Search) : Prop :=
  ∀ text offset m, text.IsBoundary offset → search text offset = .ok (some m) → m.start < m.stop

/-- Every match is empty, and there is one at every place. -/
def Hollow (search : Search) : Prop :=
  ∀ text offset, text.IsBoundary offset → search text offset = .ok (some ⟨offset,offset⟩)

theorem everywhere_hollow : everywhere.Hollow := fun _ _ _ => rfl

theorem Hollow.wellFormed {search : Search} (hollow : search.Hollow) : search.WellFormed := by
  intro text offset boundary
  refine ⟨_,hollow text offset boundary,?_⟩
  rintro m ⟨⟩
  exact ⟨Nat.le_refl _,Nat.le_refl _,boundary,boundary⟩

theorem allLeft_solid : allLeft.Solid := by
  intro text offset m _ found
  by_cases before : offset < text.bytes
  · simp only [allLeft,before,if_true] at found
    cases found
    exact before
  · simp [allLeft,before] at found

end Search

namespace Scan

/-- Where nothing is matched at every place, the matches are one for each character that is left,
and one behind them all. -/
theorem Run.of_hollow {search : Search} {text : Text} (hollow : search.Hollow) {offset : Nat}
    {spans : List Span} (run : Run search text offset spans) {before after : Text}
    (same : text = before ++ after) (size : before.bytes = offset) :
    spans.length = after.length + 1 ∧ ∀ m ∈ spans, m.start = m.stop := by
  induction run generalizing before after with
  | @behind offset beyond =>
    have boundary : text.IsBoundary offset := ⟨before,after,same,size⟩
    exact absurd boundary.le (by omega)
  | @nothing offset none =>
    rw [hollow text offset ⟨before,after,same,size⟩] at none
    cases none
  | @found offset m next ms inside found further run ih =>
    rw [hollow text offset ⟨before,after,same,size⟩] at found
    cases found
    subst same size
    have cutting : Text.cutBack [] (before ++ after) before.bytes = some (before.reverse,after) := by
      rw [Text.cutBack_eq,Text.cut_append]
      simp
    simp only [resume?,Span.isEmpty,Nat.le_refl,decide_true,if_true,cutting] at further
    cases after with
    | nil =>
      cases further
      simp [run.behind_nil (Nat.lt_succ_self _)]
    | cons c after =>
      cases further
      obtain ⟨length,empty⟩ := ih (List.append_cons before c after) (by simp)
      simpa [length] using empty

end Scan

namespace Fragment

def claimCount (fragments : List Fragment) : Nat := fragments.countP (!·.isPlain)

def hollowCount (fragments : List Fragment) : Nat :=
  fragments.countP fun f => !f.isPlain && f.text.isEmpty

@[simp] def claimedLength : List Fragment → Nat
  | [] => 0
  | .plain _ :: rest => claimedLength rest
  | .styled text _ :: rest => text.length + claimedLength rest

/-- The number of places where the next marker can claim something. -/
@[simp] def placeCount : List Fragment → Nat
  | [] => 0
  | .plain text :: rest => text.length + 1 + placeCount rest
  | .styled _ _ :: rest => placeCount rest

@[simp] theorem claimCount_nil : claimCount [] = 0 := rfl

@[simp] theorem claimCount_plain (text : Text) (rest : List Fragment) :
    claimCount (.plain text :: rest) = claimCount rest := by
  simp [claimCount,isPlain]

@[simp] theorem claimCount_styled (text color : Text) (rest : List Fragment) :
    claimCount (.styled text color :: rest) = claimCount rest + 1 := by
  simp [claimCount,isPlain]

@[simp] theorem claimCount_append (first second : List Fragment) :
    claimCount (first ++ second) = claimCount first + claimCount second :=
  List.countP_append

@[simp] theorem hollowCount_nil : hollowCount [] = 0 := rfl

@[simp] theorem hollowCount_plain (text : Text) (rest : List Fragment) :
    hollowCount (.plain text :: rest) = hollowCount rest := by
  simp [hollowCount,isPlain]

@[simp] theorem hollowCount_styled (text color : Text) (rest : List Fragment) :
    hollowCount (.styled text color :: rest) = hollowCount rest + if text = [] then 1 else 0 := by
  simp [hollowCount,isPlain,Fragment.text,List.countP_cons]

@[simp] theorem hollowCount_append (first second : List Fragment) :
    hollowCount (first ++ second) = hollowCount first + hollowCount second :=
  List.countP_append

@[simp] theorem claimedLength_append (first second : List Fragment) :
    claimedLength (first ++ second) = claimedLength first + claimedLength second := by
  induction first with
  | nil => simp
  | cons f rest ih => cases f <;> simp [ih,Nat.add_assoc]

theorem concat_plain (text : Text) : concat [.plain text] = text := by simp [Fragment.text]

theorem hollowCount_le (fragments : List Fragment) : hollowCount fragments ≤ claimCount fragments :=
  List.countP_mono_left fun _ _ hollow => (Bool.and_eq_true _ _ ▸ hollow).1

/-- All other claims have a character at least. -/
theorem claimCount_le (fragments : List Fragment) :
    claimCount fragments ≤ hollowCount fragments + claimedLength fragments := by
  induction fragments with
  | nil => exact Nat.le_refl 0
  | cons f rest ih =>
    cases f with
    | plain text => simpa using ih
    | styled text color =>
      cases text <;> simp <;> omega

theorem claimedLength_le (fragments : List Fragment) :
    claimedLength fragments ≤ (concat fragments).length := by
  induction fragments with
  | nil => exact Nat.le_refl 0
  | cons f rest ih => cases f <;> simp [Fragment.text] <;> omega

end Fragment

open Fragment

/-- A place before each character that is not claimed, and one more for each plain fragment. -/
theorem Alternates.placeCount_eq {fragments : List Fragment} (alternates : Alternates fragments) :
    placeCount fragments + claimedLength fragments =
      (concat fragments).length + claimCount fragments + 1 := by
  induction alternates with
  | last text => simp [Fragment.text]
  | more _ ih => simp [Fragment.text]; omega

/-- Only a claim without any text makes more places than there were. -/
theorem Alternates.placeCount_le {fragments : List Fragment} (alternates : Alternates fragments) :
    placeCount fragments ≤ (concat fragments).length + 1 + hollowCount fragments := by
  have places := alternates.placeCount_eq
  have claims := claimCount_le fragments
  omega

namespace Marker

namespace Divided

variable {color rest : Text} {start : Nat} {spans : List Span} {fragments : List Fragment}

theorem claimCount_eq (divided : Divided color start rest spans fragments) :
    claimCount fragments = spans.length := by
  induction divided with
  | done => rfl
  | part _ _ _ ih => simp [ih]

theorem hollowCount_eq_zero (divided : Divided color start rest spans fragments)
    (nonempty : ∀ m ∈ spans, m.start < m.stop) : hollowCount fragments = 0 := by
  induction divided with
  | done => rfl
  | @part start m ms rest more gap claimed _ size _ ih =>
    obtain ⟨first,later⟩ := List.forall_mem_cons.mp nonempty
    have text : claimed ≠ [] := by
      rintro rfl
      simp at size
      omega
    simp [text,ih later]

theorem claimedLength_eq_zero (divided : Divided color start rest spans fragments)
    (empty : ∀ m ∈ spans, m.start = m.stop) : claimedLength fragments = 0 := by
  induction divided with
  | done => rfl
  | @part start m ms rest more gap claimed _ size _ ih =>
    obtain ⟨first,later⟩ := List.forall_mem_cons.mp empty
    have text : claimed = [] := (Text.bytes_eq_zero_iff claimed).mp (by omega)
    simp [text,ih later]

end Divided

variable {marker : Marker} {text : Text} {parts : List Fragment}

theorem run_of_split (sound : marker.search.Sound) (divided : marker.split text = .ok parts) :
    ∃ spans, Scan.Run marker.search text 0 spans ∧ Divided marker.color 0 text spans parts := by
  obtain ⟨spans,scanned,divided⟩ := (split_eq_ok_iff marker text parts).mp divided
  exact ⟨spans,(Scan.findAll_eq_ok_iff sound text spans).mp scanned,divided⟩

/-- At most one claim for each character, and one behind them all. -/
theorem claimCount_of_split (sound : marker.search.Sound) (divided : marker.split text = .ok parts) :
    claimCount parts ≤ text.length + 1 := by
  obtain ⟨spans,run,divided⟩ := run_of_split sound divided
  rw [divided.claimCount_eq]
  exact run.length_le sound (List.nil_append text).symm Text.bytes_nil

theorem hollowCount_of_split (sound : marker.search.Sound) (solid : marker.search.Solid)
    (divided : marker.split text = .ok parts) : hollowCount parts = 0 := by
  obtain ⟨spans,run,divided⟩ := run_of_split sound divided
  refine divided.hollowCount_eq_zero fun m member => ?_
  obtain ⟨offset,visits,found⟩ := run.exists_visit (fun _ => .start) m member
  exact solid text offset m (visits.boundary sound) found

theorem split_of_hollow (hollow : marker.search.Hollow) (divided : marker.split text = .ok parts) :
    claimCount parts = text.length + 1 ∧ claimedLength parts = 0 := by
  obtain ⟨spans,run,divided⟩ := run_of_split hollow.wellFormed.sound divided
  obtain ⟨length,empty⟩ := run.of_hollow hollow (List.nil_append text).symm Text.bytes_nil
  exact ⟨divided.claimCount_eq.trans length,divided.claimedLength_eq_zero empty⟩

namespace Refined

variable {fragments result : List Fragment}

theorem claimCount_le (refined : Refined marker fragments result) (sound : marker.search.Sound) :
    claimCount result ≤ claimCount fragments + placeCount fragments := by
  induction refined with
  | nil => exact Nat.le_refl 0
  | plain divided _ ih =>
    have first := claimCount_of_split sound divided
    simp
    omega
  | styled _ ih => simp; omega

theorem hollowCount_le (refined : Refined marker fragments result) (sound : marker.search.Sound) :
    hollowCount result ≤ hollowCount fragments + placeCount fragments := by
  induction refined with
  | nil => exact Nat.le_refl 0
  | @plain text parts rest more divided _ ih =>
    have first := claimCount_of_split sound divided
    have hollow := Fragment.hollowCount_le parts
    simp
    omega
  | styled _ ih => simp; omega

theorem hollowCount_eq (refined : Refined marker fragments result) (sound : marker.search.Sound)
    (solid : marker.search.Solid) : hollowCount result = hollowCount fragments := by
  induction refined with
  | nil => rfl
  | plain divided _ ih => simp [hollowCount_of_split sound solid divided,ih]
  | styled _ ih => simp [ih]

/-- A marker that matches nothing at every place claims all places, and no character. -/
theorem of_hollow (refined : Refined marker fragments result) (hollow : marker.search.Hollow) :
    claimCount result = claimCount fragments + placeCount fragments ∧
      claimedLength result = claimedLength fragments := by
  induction refined with
  | nil => exact ⟨rfl,rfl⟩
  | plain divided _ ih =>
    obtain ⟨claims,length⟩ := split_of_hollow hollow divided
    simp [claims,length,ih]
    omega
  | styled _ ih => simp [ih]; omega

end Refined

end Marker

/-- What some markers double at most and the others do not increase. -/
theorem refine_le_two_pow (count : List Fragment → Nat) (bound : Nat) (doubles : Marker → Bool)
    {text : Text} {markers : List Marker}
    (step : ∀ marker ∈ markers, ∀ fragments result, Alternates fragments →
      Fragment.concat fragments = text → Marker.Refined marker fragments result →
      count result + bound ≤ (if doubles marker then 2 else 1) * (count fragments + bound))
    {fragments result : List Fragment} (alternates : Alternates fragments)
    (content : Fragment.concat fragments = text) (returned : refine fragments markers = .ok result) :
    count result + bound ≤ 2 ^ markers.countP doubles * (count fragments + bound) := by
  induction markers generalizing fragments with
  | nil =>
    cases returned
    simp
  | cons marker markers ih =>
    obtain ⟨middle,first,returned⟩ := bind_eq_ok_iff.mp returned
    have refined := (marker.apply_eq_ok_iff _ _).mp first
    have now := step marker List.mem_cons_self fragments middle alternates content refined
    have later := ih (fun other member => step other (List.mem_cons_of_mem _ member))
      (refined.alternates alternates) (refined.concat.trans content) returned
    calc count result + bound
        ≤ 2 ^ markers.countP doubles * (count middle + bound) := later
      _ ≤ 2 ^ markers.countP doubles *
          ((if doubles marker then 2 else 1) * (count fragments + bound)) :=
        Nat.mul_le_mul_left _ now
      _ = 2 ^ (marker :: markers).countP doubles * (count fragments + bound) := by
        rw [← Nat.mul_assoc,List.countP_cons]
        split <;> simp [Nat.pow_succ]

/-- Markers that match nothing at every place double the claims, and the places behind the text
among them, each time. -/
theorem refine_eq_two_pow {text : Text} {markers : List Marker}
    (hollow : ∀ marker ∈ markers, marker.search.Hollow) {fragments result : List Fragment}
    (alternates : Alternates fragments) (content : Fragment.concat fragments = text)
    (unclaimed : claimedLength fragments = 0) (returned : refine fragments markers = .ok result) :
    claimCount result + (text.length + 1) =
      2 ^ markers.length * (claimCount fragments + (text.length + 1)) := by
  induction markers generalizing fragments with
  | nil =>
    cases returned
    simp
  | cons marker markers ih =>
    obtain ⟨middle,first,returned⟩ := bind_eq_ok_iff.mp returned
    have refined := (marker.apply_eq_ok_iff _ _).mp first
    obtain ⟨claims,length⟩ := refined.of_hollow (hollow marker List.mem_cons_self)
    have places := alternates.placeCount_eq
    rw [content] at places
    rw [ih (fun other member => hollow other (List.mem_cons_of_mem _ member))
      (refined.alternates alternates) (refined.concat.trans content) (length.trans unclaimed)
      returned,List.length_cons,Nat.pow_succ,Nat.mul_assoc]
    congr 1
    omega

variable {text : Text} {markers : List Marker} {fragments : List Fragment}

theorem segment_claimCount_le (sound : ∀ marker ∈ markers, marker.search.Sound)
    (returned : segment text markers = .ok fragments) :
    claimCount fragments + (text.length + 1) ≤ 2 ^ markers.length * (text.length + 1) := by
  have bound := refine_le_two_pow claimCount (text.length + 1) (fun _ => true) ?_ (.last text)
    (concat_plain text) returned
  · simpa using bound
  · intro marker member before after alternates content refined
    have claims := refined.claimCount_le (sound marker member)
    have places := alternates.placeCount_le
    have hollow := hollowCount_le before
    rw [content] at places
    simp only [if_true]
    omega

theorem segment_hollowCount_le (sound : ∀ marker ∈ markers, marker.search.Sound)
    {solid : Marker → Bool} (solids : ∀ marker ∈ markers, solid marker → marker.search.Solid)
    (returned : segment text markers = .ok fragments) :
    hollowCount fragments + (text.length + 1) ≤
      2 ^ markers.countP (!solid ·) * (text.length + 1) := by
  have bound := refine_le_two_pow hollowCount (text.length + 1) (!solid ·) ?_ (.last text)
    (concat_plain text) returned
  · simpa using bound
  · intro marker member before after alternates content refined
    cases check : solid marker with
    | true =>
      have same := refined.hollowCount_eq (sound marker member) (solids marker member check)
      simp [same]
    | false =>
      have claims := refined.hollowCount_le (sound marker member)
      have places := alternates.placeCount_le
      rw [content] at places
      simp
      omega

theorem segment_claimCount_of_hollow (hollow : ∀ marker ∈ markers, marker.search.Hollow)
    (returned : segment text markers = .ok fragments) :
    claimCount fragments + (text.length + 1) = 2 ^ markers.length * (text.length + 1) := by
  have claims := refine_eq_two_pow hollow (.last text) (concat_plain text) rfl returned
  simpa using claims

/-- In one plain fragment, a marker claims something at most once before each character and once at
the end. All markers together claim at most as often as if each of them doubled the places of the
text, and markers that match nothing at every place do so. Of the claims, at most one for each
character has a text itself. Markers without empty matches add only such ones; if all but one are of
that kind, there are no more claims than places in the text for each marker. -/
theorem segment_claims_bounded (text : Text) (markers : List Marker)
    (wellFormed : ∀ marker ∈ markers, marker.search.WellFormed) :
    (∀ marker ∈ markers, ∀ run parts, marker.split run = .ok parts →
      claimCount parts ≤ run.length + 1) ∧
    ∃ fragments, segment text markers = .ok fragments ∧
      claimCount fragments ≤ (2 ^ markers.length - 1) * (text.length + 1) ∧
      claimCount fragments ≤ hollowCount fragments + text.length ∧
      (∀ solid : Marker → Bool, (∀ marker ∈ markers, solid marker → marker.search.Solid) →
        hollowCount fragments ≤ (2 ^ markers.countP (!solid ·) - 1) * (text.length + 1) ∧
        (markers.countP (!solid ·) ≤ 1 →
          claimCount fragments ≤ markers.length * (text.length + 1))) ∧
      ((∀ marker ∈ markers, marker.search.Hollow) →
        claimCount fragments = (2 ^ markers.length - 1) * (text.length + 1)) := by
  have sound (marker : Marker) (member : marker ∈ markers) := (wellFormed marker member).sound
  refine ⟨fun marker member run parts => Marker.claimCount_of_split (sound marker member),?_⟩
  obtain ⟨fragments,returned⟩ := refine_ok_of_wellFormed wellFormed [.plain text]
  have claims := segment_claimCount_le sound returned
  have most : claimCount fragments ≤ hollowCount fragments + text.length := by
    have length := claimedLength_le fragments
    rw [concat_of_segment returned] at length
    exact Nat.le_trans (claimCount_le fragments) (Nat.add_le_add_left length _)
  refine ⟨fragments,returned,?_,most,fun solid solids => ⟨?_,fun single => ?_⟩,fun hollow => ?_⟩
  · rw [Nat.sub_one_mul]
    omega
  · have bound := segment_hollowCount_le sound solids returned
    rw [Nat.sub_one_mul]
    omega
  · have bound := segment_hollowCount_le sound solids returned
    have power : 2 ^ markers.countP (!solid ·) ≤ 2 := Nat.pow_le_pow_right (by decide) single
    have product := Nat.mul_le_mul_right (text.length + 1) power
    -- One marker alone keeps the general bound; two have room for all that `most` allows.
    match markers with
    | [] | [_] => simp at claims ⊢; omega
    | _ :: _ :: rest =>
      have room : 2 * (text.length + 1) ≤ (rest.length + 1 + 1) * (text.length + 1) :=
        Nat.mul_le_mul_right _ (by omega)
      simp only [List.length_cons]
      omega
  · have all := segment_claimCount_of_hollow hollow returned
    rw [Nat.sub_one_mul]
    omega

/-- Behind a marker that matches nothing everywhere, one that takes all there is finds nothing to
claim in the empty fragments; another one of the first kind claims each of them again. -/
theorem segment_claims_bounded_grid :
    (∀ marker ∈ grid, marker.search.WellFormed) ∧
    (∀ marker ∈ grid, marker.color == ['r','e','d'] → marker.search.Solid) ∧
    (∃ fragments, segment ['a','é'] grid = .ok fragments ∧ claimCount fragments ≤ 2 * 3) ∧
    ∃ fragments, segment ['a','é'] [⟨Search.everywhere,['b']⟩,⟨Search.everywhere,['c']⟩] =
      .ok fragments ∧ claimCount fragments = 3 * 3 := by
  have solids : ∀ marker ∈ grid, marker.color == ['r','e','d'] → marker.search.Solid := by
    intro marker member red
    rcases List.mem_pair.mp member with rfl | rfl
    · contradiction
    · exact Search.allLeft_solid
  have hollow : ∀ marker ∈ [Marker.mk Search.everywhere ['b'],⟨Search.everywhere,['c']⟩],
      marker.search.Hollow := by
    intro marker member
    rcases List.mem_pair.mp member with rfl | rfl <;> exact Search.everywhere_hollow
  obtain ⟨_,few,returned,_,_,bounds,_⟩ := segment_claims_bounded ['a','é'] grid grid_wellFormed
  obtain ⟨_,bound⟩ := bounds _ solids
  obtain ⟨_,many,returned',_,_,_,reached⟩ :=
    segment_claims_bounded ['a','é'] _ fun marker member => (hollow marker member).wellFormed
  exact ⟨grid_wellFormed,solids,⟨few,returned,bound (by decide)⟩,many,returned',reached hollow⟩

/-- The second rule finds nothing, in the empty text, on both sides of what the first has claimed. -/
theorem segment_claims_twice :
    ∃ rule, Rule.compile? ['r'] ['x','*'] ['c'] = some rule ∧ rule.pattern.search.WellFormed ∧
      ∃ fragments, Rule.segment [rule,rule] [] = .ok fragments ∧
        claimCount fragments = 3 ∧
        ¬ claimCount fragments ≤ [rule,rule].length * (([] : Text).length + 1) := by
  have facts : ((Rule.compile? ['r'] ['x','*'] ['c']).map fun rule =>
      Rule.segment [rule,rule] []) =
      some (.ok [.plain [],.styled [] ['c'],.plain [],.styled [] ['c'],.plain [],
        .styled [] ['c'],.plain []]) := by decide +kernel
  obtain ⟨rule,compiled,returned⟩ := Option.map_eq_some_iff.mp facts
  have wellFormed := Rule.wellFormed_of_compile? compiled (by decide)
  exact ⟨rule,compiled,wellFormed,_,returned,rfl,by simp⟩

end Highlighting
