import Highlighting.Proofs.Scan
import Highlighting.Segmentation

/-! Dividing a text by markers, as relations between texts, spans and fragments. Every function
of the segmentation answers exactly what its relation holds of, so a property of segmentations
needs one case for each way to add a fragment. -/
namespace Highlighting

/-- Plain and styled fragments in turn, with a plain one at both ends. -/
inductive Alternates : List Fragment → Prop where
  | last (text) : Alternates [.plain text]
  | more {text claimed color rest} : Alternates rest →
      Alternates (.plain text :: .styled claimed color :: rest)

namespace Alternates

theorem join {left right : List Fragment} {claimed color : Text} (first : Alternates left)
    (second : Alternates right) : Alternates (left ++ .styled claimed color :: right) := by
  induction first with
  | last text => exact .more second
  | more _ ih => exact .more ih

theorem length_odd {fragments : List Fragment} (alternates : Alternates fragments) :
    fragments.length % 2 = 1 := by
  induction alternates with
  | last text => rfl
  | more _ ih => simp only [List.length_cons]; omega

theorem isPlain_get {fragments : List Fragment} (alternates : Alternates fragments)
    {i : Nat} {f : Fragment} (atIndex : fragments[i]? = some f) :
    f.isPlain = (i % 2 == 0) := by
  induction alternates generalizing i with
  | last text =>
    cases i with
    | zero => cases atIndex; rfl
    | succ i => simp at atIndex
  | more _ ih =>
    match i with
    | 0 => cases atIndex; rfl
    | 1 => cases atIndex; rfl
    | i + 2 =>
      rw [ih (by simpa using atIndex)]
      simp

end Alternates

namespace Marker

/-- `Divided color start rest spans fragments`: cut along the spans, the text `rest`, which begins
at offset `start`, falls into the fragments. -/
inductive Divided (color : Text) : Nat → Text → List Span → List Fragment → Prop where
  | done {start rest} : Divided color start rest [] [.plain rest]
  | part {start m ms rest more} {gap claimed : Text} : start + gap.bytes = m.start →
      m.start + claimed.bytes = m.stop → Divided color m.stop rest ms more →
      Divided color start (gap ++ (claimed ++ rest)) (m :: ms)
        (.plain gap :: .styled claimed color :: more)

theorem divide_eq_ok_iff (color : Text) (start : Nat) (rest : Text) (spans : List Span)
    (fragments : List Fragment) :
    divide color start rest spans = .ok fragments ↔ Divided color start rest spans fragments := by
  constructor
  · induction spans generalizing start rest fragments with
    | nil =>
      intro returned
      cases returned
      exact .done
    | cons m ms ih =>
      intro returned
      simp only [divide] at returned
      split at returned
      · contradiction
      next ordered =>
        simp only [Bool.or_eq_true,decide_eq_true_eq,not_or,Nat.not_lt] at ordered
        split at returned
        · contradiction
        next gap behind gapCut =>
          split at returned
          · contradiction
          next claimed left claimedCut =>
            obtain ⟨rfl,gapSize⟩ := (Text.cut_eq_some_iff _ _ _ _).mp gapCut
            obtain ⟨rfl,claimedSize⟩ := (Text.cut_eq_some_iff _ _ _ _).mp claimedCut
            cases later : divide color m.stop left ms with
            | error fault => rw [later] at returned; contradiction
            | ok more =>
              rw [later] at returned
              cases returned
              exact .part (by omega) (by omega) (ih m.stop left more later)
  · intro divided
    induction divided with
    | done => rfl
    | @part start m ms rest more gap claimed gapSize claimedSize _ ih =>
      have gapCut : Text.cut (gap ++ (claimed ++ rest)) (m.start - start) =
          some (gap,claimed ++ rest) := (Text.cut_eq_some_iff _ _ _ _).mpr ⟨rfl,by omega⟩
      have claimedCut : Text.cut (claimed ++ rest) (m.stop - m.start) = some (claimed,rest) :=
        (Text.cut_eq_some_iff _ _ _ _).mpr ⟨rfl,by omega⟩
      have ordered : ¬ (m.start < start || m.stop < m.start) = true := by
        simp only [Bool.or_eq_true,decide_eq_true_eq,not_or]; omega
      simp only [divide,ordered,gapCut,claimedCut,ih]
      rfl

theorem divide_eq_error {color rest : Text} {start : Nat} {spans : List Span} {fault : ScanFault}
    (failed : divide color start rest spans = .error fault) : fault = .noSuchPart := by
  induction spans generalizing start rest with
  | nil => contradiction
  | cons m ms ih =>
    simp only [divide] at failed
    split at failed
    · cases failed; rfl
    · split at failed
      · cases failed; rfl
      · split at failed
        · cases failed; rfl
        · next left _ =>
          cases later : divide color m.stop left ms with
          | ok more => simp [later,Except.map] at failed
          | error fault' =>
            simp only [later,Except.map,Except.error.injEq] at failed
            rw [failed] at later
            exact ih later

namespace Divided

variable {color rest : Text} {start : Nat} {spans : List Span} {fragments : List Fragment}

theorem concat (divided : Divided color start rest spans fragments) :
    Fragment.concat fragments = rest := by
  induction divided with
  | done => simp [Fragment.text]
  | part _ _ _ ih => simp [Fragment.text,ih]

theorem alternates (divided : Divided color start rest spans fragments) :
    Alternates fragments := by
  induction divided with
  | done => exact .last _
  | part _ _ _ ih => exact .more ih

theorem color_eq (divided : Divided color start rest spans fragments) :
    ∀ f ∈ fragments, ∀ c, f.color? = some c → c = color := by
  induction divided with
  | done => simp [Fragment.color?]
  | part _ _ _ ih =>
    intro f member c colored
    simp only [List.mem_cons] at member
    rcases member with rfl | rfl | member
    · contradiction
    · exact (Option.some.inj colored).symm
    · exact ih f member c colored

end Divided

/-- A text is divided along its spans exactly if they lie in it one behind the other. -/
theorem divided_iff_laid (color before rest : Text) (spans : List Span) :
    (∃ fragments, Divided color before.bytes rest spans fragments) ↔
      Laid (before ++ rest) before.bytes spans := by
  constructor
  · rintro ⟨fragments,divided⟩
    generalize same : before.bytes = start at divided ⊢
    induction divided generalizing before with
    | done => exact laid_nil _ _
    -- What lies before the rest of the spans is the gap and the claimed text as well.
    | @part start m ms rest more gap claimed gapSize claimedSize _ ih =>
      have later := ih (before ++ (gap ++ claimed)) (by simp; omega)
      simp only [List.append_assoc] at later
      refine (laid_cons _ _ _ _).mpr ⟨by omega,⟨by omega,?_,?_⟩,later⟩
      · exact ⟨before ++ gap,claimed ++ rest,by simp,by simp; omega⟩
      · exact ⟨before ++ (gap ++ claimed),rest,by simp,by simp; omega⟩
  · intro laid
    induction spans generalizing before rest with
    | nil => exact ⟨_,.done⟩
    | cons m ms ih =>
      obtain ⟨after,fits,later⟩ := (laid_cons _ _ _ _).mp laid
      have ordered := fits.ordered
      obtain ⟨gap,rest,rfl,gapSize⟩ := fits.start.split_off after
      rw [← List.append_assoc] at fits later
      obtain ⟨claimed,rest,rfl,claimedSize⟩ := fits.stop.split_off (by simp; omega)
      rw [← List.append_assoc] at later
      simp only [Text.bytes_append] at claimedSize
      have size : Text.bytes (before ++ gap ++ claimed) = m.stop := by simp; omega
      obtain ⟨more,divided⟩ := ih (before ++ gap ++ claimed) rest (by rw [size]; exact later)
      rw [size] at divided
      exact ⟨_,.part gapSize (by omega) divided⟩

theorem split_eq_ok_iff (marker : Marker) (text : Text) (fragments : List Fragment) :
    marker.split text = .ok fragments ↔
      ∃ spans, Scan.findAll marker.search text = .ok spans ∧
        Divided marker.color 0 text spans fragments := by
  simp only [split,← divide_eq_ok_iff]
  cases Scan.findAll marker.search text <;> simp [Except.bind]

theorem split_ok_iff (marker : Marker) (text : Text) :
    (∃ fragments, marker.split text = .ok fragments) ↔
      ∃ spans, Scan.findAll marker.search text = .ok spans ∧ Laid text 0 spans := by
  simp only [split_eq_ok_iff]
  have laid (spans) := divided_iff_laid marker.color [] text spans
  simp only [Text.bytes_nil,List.nil_append] at laid
  constructor
  · rintro ⟨fragments,spans,returned,divided⟩
    exact ⟨spans,returned,(laid spans).mp ⟨fragments,divided⟩⟩
  · rintro ⟨spans,returned,behind⟩
    obtain ⟨fragments,divided⟩ := (laid spans).mpr behind
    exact ⟨fragments,spans,returned,divided⟩

theorem split_ok_of_wellFormed {marker : Marker} (wellFormed : marker.search.WellFormed)
    (text : Text) : ∃ fragments, marker.split text = .ok fragments := by
  obtain ⟨spans,returned,laid⟩ := Scan.findAll_laid wellFormed text
  exact (split_ok_iff marker text).mpr ⟨spans,returned,laid⟩

/-- Every plain fragment is replaced by its own division, every styled one by itself. -/
inductive Refined (marker : Marker) : List Fragment → List Fragment → Prop where
  | nil : Refined marker [] []
  | plain {text parts rest more} : marker.split text = .ok parts → Refined marker rest more →
      Refined marker (.plain text :: rest) (parts ++ more)
  | styled {text color rest more} : Refined marker rest more →
      Refined marker (.styled text color :: rest) (.styled text color :: more)

theorem apply_eq_ok_iff (marker : Marker) (fragments result : List Fragment) :
    marker.apply fragments = .ok result ↔ Refined marker fragments result := by
  constructor
  · induction fragments generalizing result with
    | nil =>
      intro returned
      cases returned
      exact .nil
    | cons f rest ih =>
      intro returned
      cases f with
      | plain text =>
        simp only [apply] at returned
        cases divided : marker.split text with
        | error fault => rw [divided] at returned; contradiction
        | ok parts =>
          cases later : marker.apply rest with
          | error fault => rw [divided,later] at returned; contradiction
          | ok more =>
            rw [divided,later] at returned
            cases returned
            exact .plain divided (ih more later)
      | styled text color =>
        simp only [apply] at returned
        cases later : marker.apply rest with
        | error fault => rw [later] at returned; contradiction
        | ok more =>
          rw [later] at returned
          cases returned
          exact .styled (ih more later)
  · intro refined
    induction refined with
    | nil => rfl
    | plain divided _ ih => simp only [apply,divided,ih]; rfl
    | styled _ ih => simp only [apply,ih]; rfl

theorem apply_eq_error (marker : Marker) {fragments : List Fragment} {fault : ScanFault}
    (failed : marker.apply fragments = .error fault) :
    ∃ run, .plain run ∈ fragments ∧ marker.split run = .error fault := by
  induction fragments with
  | nil => contradiction
  | cons f fragments ih =>
    cases f with
    | styled text color =>
      cases later : marker.apply fragments with
      | ok more => simp [apply,later,Except.map] at failed
      | error fault' =>
        simp only [apply,later,Except.map,Except.error.injEq] at failed
        subst failed
        obtain ⟨run,member,fails⟩ := ih later
        exact ⟨run,List.mem_cons_of_mem _ member,fails⟩
    | plain text =>
      cases first : marker.split text with
      | error fault' =>
        simp only [apply,first,Except.bind,Except.error.injEq] at failed
        subst failed
        exact ⟨text,List.mem_cons_self,first⟩
      | ok parts =>
        cases later : marker.apply fragments with
        | ok more => simp [apply,first,later,Except.bind,Except.map] at failed
        | error fault' =>
          simp only [apply,first,later,Except.bind,Except.map,Except.error.injEq] at failed
          subst failed
          obtain ⟨run,member,fails⟩ := ih later
          exact ⟨run,List.mem_cons_of_mem _ member,fails⟩

theorem apply_ok_iff (marker : Marker) (fragments : List Fragment) :
    (∃ result, marker.apply fragments = .ok result) ↔
      ∀ text, .plain text ∈ fragments → ∃ parts, marker.split text = .ok parts := by
  constructor
  · rintro ⟨result,applied⟩ text member
    have refined := (marker.apply_eq_ok_iff fragments result).mp applied
    clear applied
    induction refined with
    | nil => simp at member
    | plain divided _ ih =>
      rcases List.mem_cons.mp member with same | member
      · cases same
        exact ⟨_,divided⟩
      · exact ih member
    | styled _ ih => exact ih (by simpa using member)
  · intro divides
    cases applied : marker.apply fragments with
    | ok result => exact ⟨result,rfl⟩
    | error fault =>
      obtain ⟨run,member,fails⟩ := marker.apply_eq_error applied
      obtain ⟨parts,divided⟩ := divides run member
      rw [fails] at divided
      contradiction

theorem concat_of_split {marker : Marker} {text : Text} {fragments : List Fragment}
    (divided : marker.split text = .ok fragments) : Fragment.concat fragments = text := by
  obtain ⟨spans,_,divided⟩ := (split_eq_ok_iff marker text fragments).mp divided
  exact divided.concat

theorem alternates_of_split {marker : Marker} {text : Text} {fragments : List Fragment}
    (divided : marker.split text = .ok fragments) : Alternates fragments := by
  obtain ⟨spans,_,divided⟩ := (split_eq_ok_iff marker text fragments).mp divided
  exact divided.alternates

namespace Refined

variable {marker : Marker} {fragments result : List Fragment}

theorem concat (refined : Refined marker fragments result) :
    Fragment.concat result = Fragment.concat fragments := by
  induction refined with
  | nil => rfl
  | plain divided _ ih => simp [Fragment.text,concat_of_split divided,ih]
  | styled _ ih => simp [ih]

theorem alternates (refined : Refined marker fragments result)
    (before : Alternates fragments) : Alternates result := by
  induction before generalizing result with
  | last text =>
    cases refined with
    | plain divided rest =>
      cases rest
      simpa using alternates_of_split divided
  | more _ ih =>
    cases refined with
    | plain divided rest =>
      cases rest with
      | styled rest => exact (alternates_of_split divided).join (ih rest)

/-- A color that was not there before is that of the marker. -/
theorem colors (refined : Refined marker fragments result) :
    ∀ f ∈ result, ∀ c, f.color? = some c →
      c = marker.color ∨ ∃ g ∈ fragments, g.color? = some c := by
  induction refined with
  | nil => simp
  | @plain text parts rest more divided _ ih =>
    intro f member c colored
    rcases List.mem_append.mp member with member | member
    · obtain ⟨spans,_,cut⟩ := (split_eq_ok_iff marker text parts).mp divided
      exact .inl (cut.color_eq f member c colored)
    · exact (ih f member c colored).imp_right fun ⟨g,inside,same⟩ =>
        ⟨g,List.mem_cons_of_mem _ inside,same⟩
  | @styled text color rest more _ ih =>
    intro f member c colored
    rcases List.mem_cons.mp member with rfl | member
    · exact .inr ⟨_,List.mem_cons_self,colored⟩
    · exact (ih f member c colored).imp_right fun ⟨g,inside,same⟩ =>
        ⟨g,List.mem_cons_of_mem _ inside,same⟩

end Refined

end Marker

/-- The segmentation under a list of markers continues that under its first part. -/
theorem refine_append (fragments : List Fragment) (markers more : List Marker) :
    refine fragments (markers ++ more) =
      (refine fragments markers).bind fun fragments => refine fragments more := by
  induction markers generalizing fragments with
  | nil => rfl
  | cons marker markers ih =>
    simp only [List.cons_append,refine]
    cases marker.apply fragments with
    | error fault => rfl
    | ok result => exact ih result

/-- What one marker after another keeps, all of them keep. -/
theorem refine_keeps {P : List Fragment → Prop} {fragments result : List Fragment}
    {markers : List Marker} (returned : refine fragments markers = .ok result)
    (holds : P fragments)
    (kept : ∀ marker ∈ markers, ∀ fragments result, Marker.Refined marker fragments result →
      P fragments → P result) : P result := by
  induction markers generalizing fragments with
  | nil => cases returned; exact holds
  | cons marker markers ih =>
    simp only [refine] at returned
    cases first : marker.apply fragments with
    | error fault => rw [first] at returned; contradiction
    | ok middle =>
      rw [first] at returned
      refine ih returned ?_ fun marker member => kept marker (List.mem_cons_of_mem _ member)
      exact kept marker List.mem_cons_self fragments middle
        ((marker.apply_eq_ok_iff _ _).mp first) holds

theorem segment_colors {text : Text} {markers : List Marker} {fragments : List Fragment}
    (returned : segment text markers = .ok fragments) :
    ∀ f ∈ fragments, ∀ c, f.color? = some c → ∃ marker ∈ markers, marker.color = c := by
  refine refine_keeps
    (P := fun fs => ∀ f ∈ fs, ∀ c, f.color? = some c → ∃ marker ∈ markers, marker.color = c)
    returned (by simp [Fragment.color?]) ?_
  intro marker isMarker before after refined colored f member c isColor
  rcases refined.colors f member c isColor with rfl | ⟨g,inside,isColor⟩
  · exact ⟨marker,isMarker,rfl⟩
  · exact colored g inside c isColor

theorem refine_ok_of_wellFormed {markers : List Marker}
    (wellFormed : ∀ marker ∈ markers, marker.search.WellFormed) (fragments : List Fragment) :
    ∃ result, refine fragments markers = .ok result := by
  induction markers generalizing fragments with
  | nil => exact ⟨fragments,rfl⟩
  | cons marker markers ih =>
    have divides (text) := Marker.split_ok_of_wellFormed (wellFormed marker List.mem_cons_self) text
    obtain ⟨middle,first⟩ := (marker.apply_ok_iff fragments).mpr fun text _ => divides text
    obtain ⟨result,later⟩ :=
      ih (fun marker member => wellFormed marker (List.mem_cons_of_mem _ member)) middle
    refine ⟨result,?_⟩
    simp only [refine,first]
    exact later

/-- One marker more goes through the fragments that the markers before it have left. -/
theorem segment_take_succ (text : Text) {markers : List Marker} {k : Nat} {marker : Marker}
    (atIndex : markers[k]? = some marker) :
    segment text (markers.take (k + 1)) = (segment text (markers.take k)).bind marker.apply := by
  rw [List.take_add_one,atIndex,segment,refine_append,segment]
  cases refine [.plain text] (markers.take k) with
  | error fault => rfl
  | ok fragments =>
    simp only [Except.bind,Option.toList,refine]
    cases marker.apply fragments <;> rfl

theorem segment_take (text : Text) (markers : List Marker) {k n : Nat} (le : k ≤ n) :
    segment text (markers.take n) =
      (segment text (markers.take k)).bind fun fragments =>
        refine fragments ((markers.take n).drop k) := by
  rw [segment,segment,← refine_append]
  congr 1
  have start : markers.take k = (markers.take n).take k := by rw [List.take_take,Nat.min_eq_left le]
  rw [start,List.take_append_drop]

theorem segment_eq_error {text : Text} {markers : List Marker} {fault : ScanFault}
    (failed : segment text markers = .error fault) :
    ∃ k marker fragments run, markers[k]? = some marker ∧
      segment text (markers.take k) = .ok fragments ∧ .plain run ∈ fragments ∧
      marker.split run = .error fault := by
  have prefixes (n : Nat) (failed : segment text (markers.take n) = .error fault) :
      ∃ k marker fragments run, markers[k]? = some marker ∧
        segment text (markers.take k) = .ok fragments ∧ .plain run ∈ fragments ∧
        marker.split run = .error fault := by
    induction n with
    | zero => contradiction
    | succ n ih =>
      cases before : segment text (markers.take n) with
      | error fault' =>
        rw [segment_take text markers (Nat.le_succ n),before] at failed
        cases failed
        exact ih before
      | ok fragments =>
        cases atIndex : markers[n]? with
        | none =>
          have all := List.getElem?_eq_none_iff.mp atIndex
          rw [List.take_of_length_le all] at before
          rw [List.take_of_length_le (by omega),before] at failed
          contradiction
        | some marker =>
          rw [segment_take_succ text atIndex,before] at failed
          obtain ⟨run,member,fails⟩ := marker.apply_eq_error failed
          exact ⟨n,marker,fragments,run,atIndex,before,member,fails⟩
  exact prefixes markers.length (by simpa using failed)

/-- A text is segmented exactly if every marker can divide every plain fragment that it meets. -/
theorem segment_ok_iff (text : Text) (markers : List Marker) :
    (∃ fragments, segment text markers = .ok fragments) ↔
      ∀ k marker fragments run, markers[k]? = some marker →
        segment text (markers.take k) = .ok fragments → .plain run ∈ fragments →
        ∃ parts, marker.split run = .ok parts := by
  constructor
  · rintro ⟨final,returned⟩ k marker fragments run atIndex before member
    have inside : k < markers.length := (List.getElem?_eq_some_iff.mp atIndex).1
    rw [← List.take_length (l := markers),segment_take text markers (k := k + 1) inside,
      segment_take_succ text atIndex,before] at returned
    cases applied : marker.apply fragments with
    | error fault => rw [Except.bind,applied] at returned; contradiction
    | ok result => exact (marker.apply_ok_iff fragments).mp ⟨result,applied⟩ run member
  · intro divides
    cases result : segment text markers with
    | ok fragments => exact ⟨fragments,rfl⟩
    | error fault =>
      obtain ⟨k,marker,fragments,run,atIndex,before,member,fails⟩ := segment_eq_error result
      obtain ⟨parts,divided⟩ := divides k marker fragments run atIndex before member
      rw [fails] at divided
      contradiction

theorem concat_of_segment {text : Text} {markers : List Marker} {fragments : List Fragment}
    (returned : segment text markers = .ok fragments) : Fragment.concat fragments = text :=
  refine_keeps (P := fun fs => Fragment.concat fs = text) returned
    (by simp [Fragment.text]) fun _ _ _ _ refined same => refined.concat.trans same

theorem alternates_of_segment {text : Text} {markers : List Marker} {fragments : List Fragment}
    (returned : segment text markers = .ok fragments) : Alternates fragments :=
  refine_keeps returned (.last text) fun _ _ _ _ refined => refined.alternates

/-- Whatever the markers, a segmentation neither loses nor moves a byte, and its plain and styled
fragments alternate from a plain one to a plain one: their number is odd, and the plain ones are
those at even positions. -/
theorem segment_content_and_shape (text : Text) (markers : List Marker)
    (wellFormed : ∀ marker ∈ markers, marker.search.WellFormed) :
    ∃ fragments, segment text markers = .ok fragments ∧ Fragment.concat fragments = text ∧
      fragments.length % 2 = 1 ∧
      ∀ i f, fragments[i]? = some f → f.isPlain = (i % 2 == 0) := by
  obtain ⟨fragments,returned⟩ := refine_ok_of_wellFormed wellFormed [.plain text]
  have content : Fragment.concat fragments = text :=
    refine_keeps (P := fun fs => Fragment.concat fs = text) returned
      (by simp [Fragment.text]) fun marker _ before after refined same => refined.concat.trans same
  have shape : Alternates fragments :=
    refine_keeps returned (.last text) fun marker _ before after refined => refined.alternates
  exact ⟨fragments,returned,content,shape.length_odd,fun i f => shape.isPlain_get⟩

/-- A marker that matches nothing everywhere, and behind it one that takes all there is. -/
def grid : List Marker := [⟨Search.everywhere,['b','l','u','e']⟩,⟨Search.allLeft,['r','e','d']⟩]

theorem grid_wellFormed : ∀ marker ∈ grid, marker.search.WellFormed := by
  intro marker member
  rcases List.mem_pair.mp member with rfl | rfl
  · exact Search.everywhere_wellFormed
  · exact Search.allLeft_wellFormed

theorem segment_content_and_shape_grid :
    (∀ marker ∈ grid, marker.search.WellFormed) ∧
    ∃ fragments, segment ['a','é'] grid = .ok fragments ∧ Fragment.concat fragments = ['a','é'] ∧
      fragments.length % 2 = 1 ∧
      ∀ i f, fragments[i]? = some f → f.isPlain = (i % 2 == 0) :=
  ⟨grid_wellFormed,segment_content_and_shape ['a','é'] grid grid_wellFormed⟩

end Highlighting
