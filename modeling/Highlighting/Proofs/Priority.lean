import Highlighting.Proofs.Division

/-! The first marker to claim a byte keeps it. `Fragment.at?` looks a byte up in a segmentation;
one marker more leaves styled bytes alone and looks plain ones up in the division of their own
fragment, where offsets count from the start of that fragment. -/
namespace Highlighting

namespace Fragment

def at? : List Fragment → Nat → Option (Nat × Fragment)
  | [], _ => none
  | f :: fs, byte =>
    if byte < f.text.bytes then some (0,f)
    else (at? fs (byte - f.text.bytes)).map fun (start,g) => (f.text.bytes + start,g)

theorem at?_cons_eq_some {f : Fragment} {fs : List Fragment} {byte start : Nat} {g : Fragment}
    (held : at? (f :: fs) byte = some (start,g)) :
    (byte < f.text.bytes ∧ start = 0 ∧ g = f) ∨
      (¬ byte < f.text.bytes ∧ ∃ inner, at? fs (byte - f.text.bytes) = some (inner,g) ∧
        start = f.text.bytes + inner) := by
  simp only [at?] at held
  split at held
  next first => cases held; exact .inl ⟨first,rfl,rfl⟩
  next behind =>
    obtain ⟨⟨inner,h⟩,found,equal⟩ := Option.map_eq_some_iff.mp held
    cases equal
    exact .inr ⟨behind,inner,found,rfl⟩

theorem at?_append (left right : List Fragment) (byte : Nat) :
    at? (left ++ right) byte =
      if byte < (concat left).bytes then at? left byte
      else (at? right (byte - (concat left).bytes)).map
        fun (start,g) => ((concat left).bytes + start,g) := by
  induction left generalizing byte with
  | nil => simp
  | cons f left ih =>
    simp only [List.cons_append,at?,concat_cons,Text.bytes_append,ih]
    by_cases first : byte < f.text.bytes
    · have inLeft : byte < f.text.bytes + (concat left).bytes := by omega
      simp [first,inLeft]
    · by_cases inside : byte - f.text.bytes < (concat left).bytes
      · have inLeft : byte < f.text.bytes + (concat left).bytes := by omega
        simp [first,inside,inLeft]
      · have behind : ¬ byte < f.text.bytes + (concat left).bytes := by omega
        simp [first,inside,behind,Nat.sub_sub,Nat.add_assoc,Function.comp_def]

theorem at?_bounds {fragments : List Fragment} {byte start : Nat} {f : Fragment}
    (held : at? fragments byte = some (start,f)) :
    start ≤ byte ∧ byte < start + f.text.bytes ∧ f ∈ fragments := by
  induction fragments generalizing byte start with
  | nil => contradiction
  | cons g rest ih =>
    rcases at?_cons_eq_some held with ⟨first,rfl,rfl⟩ | ⟨behind,inner,found,rfl⟩
    · exact ⟨Nat.zero_le _,by omega,List.mem_cons_self⟩
    · obtain ⟨lower,upper,member⟩ := ih found
      exact ⟨by omega,by omega,List.mem_cons_of_mem g member⟩

end Fragment

namespace Marker

open Fragment

theorem at?_part (gap claimed color : Text) (more : List Fragment) (byte : Nat) :
    at? (.plain gap :: .styled claimed color :: more) byte =
      if byte < gap.bytes then some (0,.plain gap)
      else if byte < gap.bytes + claimed.bytes then some (gap.bytes,.styled claimed color)
      else (at? more (byte - (gap.bytes + claimed.bytes))).map
        fun (start,f) => (gap.bytes + claimed.bytes + start,f) := by
  simp only [at?,Fragment.text]
  by_cases inGap : byte < gap.bytes
  · simp [inGap]
  · by_cases inside : byte < gap.bytes + claimed.bytes
    · have inClaimed : byte - gap.bytes < claimed.bytes := by omega
      simp [inGap,inside,inClaimed]
    · have behind : ¬ byte - gap.bytes < claimed.bytes := by omega
      simp [inGap,inside,behind,Nat.sub_sub,Nat.add_assoc,Function.comp_def]

theorem Divided.after {color rest : Text} {start : Nat} {spans : List Span}
    {fragments : List Fragment} (divided : Divided color start rest spans fragments) :
    ∀ m ∈ spans, start ≤ m.start := by
  induction divided with
  | done => simp
  | part gapSize claimedSize _ ih =>
    intro m member
    rcases List.mem_cons.mp member with rfl | member
    · omega
    · have behind := ih m member
      omega

theorem Divided.at?_claimed {color rest : Text} {start : Nat} {spans : List Span}
    {fragments : List Fragment} (divided : Divided color start rest spans fragments)
    (byte : Nat) {m : Span} (member : m ∈ spans) (lower : m.start ≤ start + byte)
    (upper : start + byte < m.stop) :
    ∃ offset claimed, at? fragments byte = some (offset,.styled claimed color) ∧
      start + offset = m.start ∧ m.start + claimed.bytes = m.stop := by
  induction divided generalizing byte with
  | done => simp at member
  | @part start first ms rest more gap claimed gapSize claimedSize divided ih =>
    have notGap : ¬ byte < gap.bytes := by
      rcases List.mem_cons.mp member with rfl | member
      · omega
      · have behind := divided.after m member
        omega
    rcases List.mem_cons.mp member with rfl | member
    · have inside : byte < gap.bytes + claimed.bytes := by omega
      exact ⟨gap.bytes,claimed,by simp [at?_part,notGap,inside],gapSize,claimedSize⟩
    · have behind := divided.after m member
      have beyond : ¬ byte < gap.bytes + claimed.bytes := by omega
      obtain ⟨offset,text,held,fromStart,size⟩ :=
        ih (byte - (gap.bytes + claimed.bytes)) member (by omega) (by omega)
      refine ⟨gap.bytes + claimed.bytes + offset,text,?_,by omega,size⟩
      simp [at?_part,notGap,beyond,held]

/-- A byte outside all spans is held by a plain fragment. -/
theorem Divided.at?_unclaimed {color rest : Text} {start : Nat} {spans : List Span}
    {fragments : List Fragment} (divided : Divided color start rest spans fragments)
    (byte : Nat) (inside : byte < rest.bytes)
    (unclaimed : ∀ m ∈ spans, ¬ (m.start ≤ start + byte ∧ start + byte < m.stop)) :
    ∃ offset run, at? fragments byte = some (offset,.plain run) := by
  induction divided generalizing byte with
  | @done start rest => exact ⟨0,rest,by simp [at?,Fragment.text,inside]⟩
  | @part start first ms rest more gap claimed gapSize claimedSize _ ih =>
    by_cases inGap : byte < gap.bytes
    · exact ⟨0,gap,by simp [at?_part,inGap]⟩
    · have apart := unclaimed first List.mem_cons_self
      have beyond : ¬ byte < gap.bytes + claimed.bytes := by omega
      simp only [Text.bytes_append] at inside
      obtain ⟨offset,run,held⟩ := ih (byte - (gap.bytes + claimed.bytes)) (by omega) (by
        intro m member within
        exact unclaimed m (List.mem_cons_of_mem first member) (by omega))
      exact ⟨gap.bytes + claimed.bytes + offset,run,by simp [at?_part,inGap,beyond,held]⟩

theorem bytes_of_split {marker : Marker} {text : Text} {fragments : List Fragment}
    (divided : marker.split text = .ok fragments) :
    (concat fragments).bytes = (Fragment.plain text).text.bytes := by
  rw [concat_of_split divided]
  rfl

namespace Refined

variable {marker : Marker} {fragments result : List Fragment}

theorem at?_styled (refined : Refined marker fragments result) {byte start : Nat}
    {text color : Text} (held : at? fragments byte = some (start,.styled text color)) :
    at? result byte = some (start,.styled text color) := by
  induction refined generalizing byte start with
  | nil => contradiction
  | @plain run parts rest more divided _ ih =>
    rcases at?_cons_eq_some held with ⟨_,_,same⟩ | ⟨behind,inner,found,rfl⟩
    · contradiction
    · rw [at?_append,bytes_of_split divided,if_neg behind,ih found]
      rfl
  | @styled text' color' rest more _ ih =>
    rcases at?_cons_eq_some held with ⟨first,rfl,same⟩ | ⟨behind,inner,found,rfl⟩
    · rw [same,at?,if_pos first]
    · rw [at?,if_neg behind,ih found]
      rfl

theorem at?_plain (refined : Refined marker fragments result) {byte start : Nat} {run : Text}
    (held : at? fragments byte = some (start,.plain run)) :
    ∃ parts, marker.split run = .ok parts ∧
      at? result byte = (at? parts (byte - start)).map fun (offset,f) => (start + offset,f) := by
  induction refined generalizing byte start with
  | nil => contradiction
  | @plain run' parts rest more divided _ ih =>
    rcases at?_cons_eq_some held with ⟨first,rfl,same⟩ | ⟨behind,inner,found,rfl⟩
    · cases same
      refine ⟨parts,divided,?_⟩
      rw [at?_append,bytes_of_split divided,if_pos first]
      simp
    · obtain ⟨parts',divided',inParts⟩ := ih found
      refine ⟨parts',divided',?_⟩
      rw [at?_append,bytes_of_split divided,if_neg behind,inParts]
      simp [Fragment.text,Nat.sub_sub,Nat.add_assoc,Function.comp_def]
  | @styled text' color' rest more _ ih =>
    rcases at?_cons_eq_some held with ⟨_,_,same⟩ | ⟨behind,inner,found,rfl⟩
    · contradiction
    · obtain ⟨parts',divided',inParts⟩ := ih found
      refine ⟨parts',divided',?_⟩
      rw [at?,if_neg behind,inParts]
      simp [Nat.sub_sub,Nat.add_assoc,Function.comp_def]

end Refined

end Marker

open Fragment

/-- `Claims text markers byte k range`: under the markers before number `k` the byte lies in a
plain fragment, and marker `k` finds a match around it in that fragment. The range of the match
counts from the start of the whole text. -/
def Claims (text : Text) (markers : List Marker) (byte k : Nat) (range : Span) : Prop :=
  ∃ marker fragments start run spans m,
    markers[k]? = some marker ∧ segment text (markers.take k) = .ok fragments ∧
    at? fragments byte = some (start,.plain run) ∧
    Scan.findAll marker.search run = .ok spans ∧ m ∈ spans ∧
    range = ⟨start + m.start,start + m.stop⟩ ∧ range.start ≤ byte ∧ byte < range.stop

section

variable {text : Text} {markers : List Marker} {byte : Nat}

theorem segment_take_ok (wellFormed : ∀ marker ∈ markers, marker.search.WellFormed)
    (text : Text) (n : Nat) : ∃ fragments, segment text (markers.take n) = .ok fragments :=
  refine_ok_of_wellFormed (fun marker member => wellFormed marker (List.mem_of_mem_take member)) _

theorem refined_of_take (wellFormed : ∀ marker ∈ markers, marker.search.WellFormed) {k : Nat}
    {marker : Marker} {fragments : List Fragment} (atIndex : markers[k]? = some marker)
    (before : segment text (markers.take k) = .ok fragments) :
    ∃ result, segment text (markers.take (k + 1)) = .ok result ∧
      Marker.Refined marker fragments result := by
  obtain ⟨result,after⟩ := segment_take_ok wellFormed text (k + 1)
  have applied := after
  rw [segment_take_succ text atIndex,before] at applied
  exact ⟨result,after,(marker.apply_eq_ok_iff fragments result).mp applied⟩

/-- The marker that claims a byte styles exactly its match. -/
theorem Claims.styled (wellFormed : ∀ marker ∈ markers, marker.search.WellFormed) {k : Nat}
    {range : Span} (claims : Claims text markers byte k range) :
    ∃ marker fragments claimed, markers[k]? = some marker ∧
      segment text (markers.take (k + 1)) = .ok fragments ∧
      at? fragments byte = some (range.start,.styled claimed marker.color) ∧
      range.start + claimed.bytes = range.stop := by
  obtain ⟨marker,fragments,start,run,spans,m,atIndex,before,held,returned,member,rfl,lower,upper⟩ :=
    claims
  obtain ⟨result,after,refined⟩ := refined_of_take wellFormed atIndex before
  obtain ⟨parts,split,inParts⟩ := refined.at?_plain held
  obtain ⟨spans',returned',divided⟩ := (marker.split_eq_ok_iff run parts).mp split
  rw [returned] at returned'
  cases returned'
  have inRun := (at?_bounds held).1
  simp only at lower upper ⊢
  obtain ⟨offset,claimed,found,fromStart,size⟩ :=
    divided.at?_claimed (byte - start) member (by omega) (by omega)
  refine ⟨marker,result,claimed,atIndex,after,?_,by omega⟩
  rw [inParts,found,← fromStart]
  simp

/-- Later markers leave a styled byte alone. -/
theorem styled_stays {fragments result : List Fragment} {start : Nat} {claimed color : Text}
    (returned : refine fragments markers = .ok result)
    (held : at? fragments byte = some (start,.styled claimed color)) :
    at? result byte = some (start,.styled claimed color) :=
  refine_keeps (P := fun fs => at? fs byte = some (start,.styled claimed color)) returned held
    fun _ _ _ _ refined => refined.at?_styled

theorem Claims.styled_later (wellFormed : ∀ marker ∈ markers, marker.search.WellFormed)
    {k n : Nat} {range : Span} (claims : Claims text markers byte k range) (later : k < n) :
    ∃ marker fragments claimed, markers[k]? = some marker ∧
      segment text (markers.take n) = .ok fragments ∧
      at? fragments byte = some (range.start,.styled claimed marker.color) ∧
      range.start + claimed.bytes = range.stop := by
  obtain ⟨marker,fragments,claimed,atIndex,returned,held,size⟩ := claims.styled wellFormed
  obtain ⟨result,final⟩ := segment_take_ok wellFormed text n
  have continued := final
  rw [segment_take text markers later,returned] at continued
  exact ⟨marker,result,claimed,atIndex,final,styled_stays continued held,size⟩

/-- No claim is later than another one of the same byte: behind a claim the fragment around the
byte is styled, and a claim needs a plain one. -/
theorem Claims.le (wellFormed : ∀ marker ∈ markers, marker.search.WellFormed) {j k : Nat}
    {range other : Span} (claims : Claims text markers byte k range)
    (claims' : Claims text markers byte j other) : j ≤ k := by
  by_contra later
  obtain ⟨_,_,_,_,returned,held,_⟩ := claims.styled_later wellFormed (Nat.lt_of_not_le later)
  obtain ⟨_,_,_,_,_,_,_,returned',held',_⟩ := claims'
  rw [returned] at returned'
  cases returned'
  rw [held] at held'
  simp at held'

theorem Claims.unique (wellFormed : ∀ marker ∈ markers, marker.search.WellFormed) {j k : Nat}
    {range other : Span} (claims : Claims text markers byte k range)
    (claims' : Claims text markers byte j other) : j = k ∧ other = range := by
  have same : j = k := Nat.le_antisymm (claims.le wellFormed claims') (claims'.le wellFormed claims)
  subst same
  obtain ⟨_,fragments,_,_,returned,held,size⟩ := claims.styled wellFormed
  obtain ⟨_,fragments',_,_,returned',held',size'⟩ := claims'.styled wellFormed
  rw [returned] at returned'
  cases returned'
  rw [held] at held'
  cases range
  cases other
  simp_all

/-- A byte that none of the first markers claims lies in a plain fragment under them. -/
theorem plain_of_unclaimed (wellFormed : ∀ marker ∈ markers, marker.search.WellFormed)
    (inside : byte < text.bytes) (n : Nat)
    (unclaimed : ∀ k range, k < n → ¬ Claims text markers byte k range) :
    ∃ fragments start run, segment text (markers.take n) = .ok fragments ∧
      at? fragments byte = some (start,.plain run) := by
  induction n with
  | zero => exact ⟨[.plain text],0,text,rfl,by simp [at?,Fragment.text,inside]⟩
  | succ n ih =>
    obtain ⟨fragments,start,run,returned,held⟩ :=
      ih fun k range lt => unclaimed k range (by omega)
    cases atIndex : markers[n]? with
    | none =>
      have all := List.getElem?_eq_none_iff.mp atIndex
      rw [List.take_of_length_le all] at returned
      exact ⟨fragments,start,run,by rw [List.take_of_length_le (by omega)]; exact returned,held⟩
    | some marker =>
      obtain ⟨result,after,refined⟩ := refined_of_take wellFormed atIndex returned
      obtain ⟨parts,split,inParts⟩ := refined.at?_plain held
      obtain ⟨spans,scanned,divided⟩ := (marker.split_eq_ok_iff run parts).mp split
      obtain ⟨lower,upper,_⟩ := at?_bounds held
      simp only [Fragment.text] at upper
      obtain ⟨offset,rest,found⟩ := divided.at?_unclaimed (byte - start) (by omega) (by
        intro m member within
        exact unclaimed n ⟨start + m.start,start + m.stop⟩ (by omega)
          ⟨marker,fragments,start,run,spans,m,atIndex,returned,held,scanned,member,rfl,
            by simp; omega,by simp; omega⟩)
      exact ⟨result,start + offset,rest,after,by rw [inParts,found]; rfl⟩

/-- The first marker that claims a byte is the only one, and keeps it: whatever markers follow, the
byte stays in a styled fragment of its color that is exactly its match. A byte that no marker
claims stays plain. -/
theorem first_claim_wins (wellFormed : ∀ marker ∈ markers, marker.search.WellFormed)
    (inside : byte < text.bytes) :
    (∀ k range, Claims text markers byte k range →
      (∀ j other, Claims text markers byte j other → j = k ∧ other = range) ∧
      ∀ n, k < n → ∃ marker fragments claimed, markers[k]? = some marker ∧
        segment text (markers.take n) = .ok fragments ∧
        at? fragments byte = some (range.start,.styled claimed marker.color) ∧
        range.start + claimed.bytes = range.stop) ∧
    ((∀ k range, ¬ Claims text markers byte k range) →
      ∃ fragments start run, segment text markers = .ok fragments ∧
        at? fragments byte = some (start,.plain run)) := by
  constructor
  · intro k range claims
    exact ⟨fun j other claims' => claims.unique wellFormed claims',
      fun n later => claims.styled_later wellFormed later⟩
  · intro never
    obtain ⟨fragments,start,run,returned,held⟩ :=
      plain_of_unclaimed wellFormed inside markers.length fun k range _ => never k range
    rw [List.take_length] at returned
    exact ⟨fragments,start,run,returned,held⟩

end

/-- The empty matches of the first marker leave the two bytes of `é` in a run of their own, which
the second marker claims. -/
theorem claims_grid : Claims ['a','é'] grid 1 1 ⟨1,3⟩ :=
  ⟨⟨Search.allLeft,['r','e','d']⟩,
    [.plain [],.styled [] ['b','l','u','e'],.plain ['a'],.styled [] ['b','l','u','e'],
      .plain ['é'],.styled [] ['b','l','u','e'],.plain []],
    1,['é'],[⟨0,2⟩],⟨0,2⟩,rfl,rfl,rfl,rfl,by simp,rfl,by decide,by decide⟩

theorem first_claim_wins_grid :
    (∀ marker ∈ grid, marker.search.WellFormed) ∧ 1 < Text.bytes ['a','é'] ∧
    (∀ j other, Claims ['a','é'] grid 1 j other → j = 1 ∧ other = ⟨1,3⟩) ∧
    ∀ n, 1 < n → ∃ marker fragments claimed, grid[1]? = some marker ∧
      segment ['a','é'] (grid.take n) = .ok fragments ∧
      at? fragments 1 = some (1,.styled claimed marker.color) ∧ 1 + claimed.bytes = 3 :=
  ⟨grid_wellFormed,by decide,
    (first_claim_wins grid_wellFormed (by decide)).1 1 ⟨1,3⟩ claims_grid⟩

end Highlighting
