import Highlighting.Output
import Highlighting.Proofs.Totality

/-! Segmentation fragment by fragment. Markers go through all fragments one after the other; since
each plain fragment is a text of its own, all markers can as well go through one fragment after the
other. So what rules make of a fragment depends on nothing outside of it. Faults alone can differ:
of several fragments that cannot be divided, the two ways need not meet the same one first. -/
namespace Highlighting

theorem bind_eq_ok_iff {ε α β : Type} {first : Except ε α} {next : α → Except ε β} {b : β} :
    first.bind next = .ok b ↔ ∃ a, first = .ok a ∧ next a = .ok b := by
  cases first <;> simp [Except.bind]

theorem map_eq_ok_iff {ε α β : Type} {first : Except ε α} {f : α → β} {b : β} :
    first.map f = .ok b ↔ ∃ a, first = .ok a ∧ f a = b := by
  cases first <;> simp [Except.map]

theorem isOk_map {ε α β : Type} (result : Except ε α) (f : α → β) :
    (result.map f).isOk = result.isOk := by
  cases result <;> rfl

theorem ite_isOk_toOption {ε α : Type} (result : Except ε α) :
    (if result.isOk then result.toOption else none) = result.toOption := by
  cases result <;> rfl

theorem exists_ok_of_map_toOption {ε α β : Type} {result : Except ε α} {f : α → β} {b : β}
    (facts : result.toOption.map f = some b) : ∃ a, result = .ok a ∧ f a = b := by
  cases result with
  | error fault => contradiction
  | ok a => exact ⟨a,rfl,Option.some.inj facts⟩

namespace Fragment

variable {α β : Type}

/-- Puts together, in order, what is made of each plain text and of each styled one. -/
def assemble (plain : Text → Except ScanFault (List α)) (styled : Text → Text → List α) :
    List Fragment → Except ScanFault (List α)
  | [] => .ok []
  | .plain text :: rest =>
    (plain text).bind fun first => (assemble plain styled rest).map (first ++ ·)
  | .styled text color :: rest => (assemble plain styled rest).map (styled text color ++ ·)

def expand (divide : Text → Except ScanFault (List Fragment)) :
    List Fragment → Except ScanFault (List Fragment) :=
  assemble divide fun text color => [.styled text color]

/-- A function that respects concatenation can be applied to the parts or to the whole. -/
theorem assemble_map {f : List α → List β} (nil : f [] = [])
    (append : ∀ first second, f (first ++ second) = f first ++ f second)
    (plain : Text → Except ScanFault (List α)) (styled : Text → Text → List α)
    (fragments : List Fragment) :
    (assemble plain styled fragments).map f =
      assemble (fun text => (plain text).map f) (fun text color => f (styled text color))
        fragments := by
  induction fragments with
  | nil => simp [assemble,Except.map,nil]
  | cons fragment rest ih =>
    cases fragment with
    | plain text =>
      simp only [assemble,← ih]
      cases plain text with
      | error fault => rfl
      | ok first => cases assemble plain styled rest <;> simp [Except.bind,Except.map,append]
    | styled text color =>
      simp only [assemble,← ih]
      cases assemble plain styled rest <;> simp [Except.map,append]

end Fragment

namespace Marker

theorem apply_append_eq_ok_iff (marker : Marker) (left right result : List Fragment) :
    marker.apply (left ++ right) = .ok result ↔
      ∃ first second, marker.apply left = .ok first ∧ marker.apply right = .ok second ∧
        first ++ second = result := by
  simp only [apply_eq_ok_iff]
  constructor
  · intro refined
    induction left generalizing result with
    | nil => exact ⟨[],result,.nil,refined,rfl⟩
    | cons fragment left ih =>
      cases refined with
      | plain divided rest =>
        obtain ⟨first,second,one,two,rfl⟩ := ih _ rest
        exact ⟨_,second,.plain divided one,two,by simp⟩
      | styled rest =>
        obtain ⟨first,second,one,two,rfl⟩ := ih _ rest
        exact ⟨_,second,.styled one,two,rfl⟩
  · rintro ⟨first,second,one,two,rfl⟩
    induction one with
    | nil => exact two
    | plain divided _ ih =>
      rw [List.append_assoc]
      exact .plain divided ih
    | styled _ ih => exact .styled ih

end Marker

/-- Markers go through the two parts of a list of fragments apart from each other. -/
theorem refine_fragments_append (left right : List Fragment) (markers : List Marker)
    (result : List Fragment) :
    refine (left ++ right) markers = .ok result ↔
      ∃ first second, refine left markers = .ok first ∧ refine right markers = .ok second ∧
        first ++ second = result := by
  induction markers generalizing left right with
  | nil => simp [refine]
  | cons marker markers ih =>
    simp only [refine,bind_eq_ok_iff,Marker.apply_append_eq_ok_iff]
    constructor
    · rintro ⟨_,⟨first,second,one,two,rfl⟩,later⟩
      obtain ⟨first',second',one',two',rfl⟩ := (ih first second).mp later
      exact ⟨first',second',⟨first,one,one'⟩,⟨second,two,two'⟩,rfl⟩
    · rintro ⟨first',second',⟨first,one,one'⟩,⟨second,two,two'⟩,rfl⟩
      exact ⟨first ++ second,⟨first,second,one,two,rfl⟩,
        (ih first second).mpr ⟨first',second',one',two',rfl⟩⟩

theorem refine_styled (text color : Text) (markers : List Marker) :
    refine [.styled text color] markers = .ok [.styled text color] := by
  induction markers with
  | nil => rfl
  | cons marker markers ih => simpa [refine,Marker.apply,Except.map,Except.bind] using ih

/-- To refine fragments is to segment each plain one. -/
theorem refine_eq_ok_iff (fragments : List Fragment) (markers : List Marker)
    (result : List Fragment) :
    refine fragments markers = .ok result ↔
      Fragment.expand (segment · markers) fragments = .ok result := by
  induction fragments generalizing result with
  | nil =>
    suffices refine [] markers = .ok [] by rw [this]; rfl
    induction markers with
    | nil => rfl
    | cons marker markers ih => exact ih
  | cons fragment rest ih =>
    have parts := refine_fragments_append [fragment] rest markers result
    rw [List.singleton_append] at parts
    rw [parts]
    cases fragment with
    | plain text =>
      simp only [ih,Fragment.expand,Fragment.assemble,bind_eq_ok_iff,map_eq_ok_iff,segment]
      constructor
      · rintro ⟨first,second,one,two,same⟩
        exact ⟨first,one,second,two,same⟩
      · rintro ⟨first,one,second,two,same⟩
        exact ⟨first,second,one,two,same⟩
    | styled text color =>
      simp only [ih,refine_styled,Fragment.expand,Fragment.assemble,map_eq_ok_iff]
      constructor
      · rintro ⟨_,second,one,two,same⟩
        cases one
        exact ⟨second,two,same⟩
      · rintro ⟨second,two,same⟩
        exact ⟨_,second,rfl,two,same⟩

theorem segment_append_eq_ok_iff (text : Text) (markers more : List Marker)
    (result : List Fragment) :
    segment text (markers ++ more) = .ok result ↔
      ∃ first, segment text markers = .ok first ∧
        Fragment.expand (segment · more) first = .ok result := by
  rw [segment,refine_append,bind_eq_ok_iff]
  simp only [refine_eq_ok_iff _ more]
  rfl

theorem Renderer.output_append (renderer : Renderer) (first second : List Fragment) :
    renderer.output (first ++ second) = renderer.output first ++ renderer.output second := by
  simp [output_eq]

/-- The output for expanded fragments is put together from the outputs for the plain texts. -/
theorem output_expand (renderer : Renderer) (divide : Text → Except ScanFault (List Fragment))
    (fragments : List Fragment) :
    (Fragment.expand divide fragments).map renderer.output =
      Fragment.assemble (fun run => (divide run).map renderer.output)
        (fun claimed color => renderer.write (.styled claimed color)) fragments := by
  rw [Fragment.expand,Fragment.assemble_map rfl renderer.output_append]
  simp [Renderer.output_eq]

/-- Rules that come behind others divide each plain fragment that those have left as a text of its
own, and leave the styled ones. So every renderer writes, in order, the outputs for the plain
fragments under the later rules and the styled fragments as they are. -/
theorem segment_fragmentwise (rules more : List Rule) (text : Text) :
    (∀ fragments, Rule.segment (rules ++ more) text = .ok fragments ↔
      ∃ first, Rule.segment rules text = .ok first ∧
        Fragment.expand (Rule.segment more) first = .ok fragments) ∧
    (∀ (renderer : Renderer) output,
      highlightWith renderer (rules ++ more) text = .ok output ↔
        ∃ first, Rule.segment rules text = .ok first ∧
          Fragment.assemble (highlightWith renderer more)
            (fun claimed color => renderer.write (.styled claimed color)) first = .ok output) ∧
    ((∀ rule ∈ rules ++ more, rule.pattern.search.WellFormed) →
      ∃ fragments, Rule.segment (rules ++ more) text = .ok fragments) := by
  have divided (fragments) : Rule.segment (rules ++ more) text = .ok fragments ↔
      ∃ first, Rule.segment rules text = .ok first ∧
        Fragment.expand (Rule.segment more) first = .ok fragments := by
    rw [Rule.segment,List.map_append]
    exact segment_append_eq_ok_iff text _ _ fragments
  refine ⟨divided,?_,fun wellFormed => Rule.segment_ok_of_wellFormed wellFormed text⟩
  intro renderer output
  have parts (first) : Fragment.assemble (highlightWith renderer more)
      (fun claimed color => renderer.write (.styled claimed color)) first =
        (Fragment.expand (Rule.segment more) first).map renderer.output :=
    (output_expand renderer (Rule.segment more) first).symm
  simp only [parts,highlightWith,map_eq_ok_iff,divided]
  constructor
  · rintro ⟨fragments,⟨first,one,two⟩,written⟩
    exact ⟨first,one,fragments,two,written⟩
  · rintro ⟨first,one,fragments,two,written⟩
    exact ⟨fragments,⟨first,one,two⟩,written⟩

/-- The second rule sees the start of a text where the first one has ended a match. -/
theorem segment_fragmentwise_anchored :
    ∃ rule later, Rule.compile? ['a'] ['a'] ['r','e','d'] = some rule ∧
      Rule.compile? ['b'] ['^','b'] ['b','l','u','e'] = some later ∧
      (∀ r ∈ [rule] ++ [later], r.pattern.search.WellFormed) ∧
      (∃ fragments, Rule.segment ([rule] ++ [later]) ['a','b'] = .ok fragments) ∧
      highlightWith Format.html.renderer ([rule] ++ [later]) ['a','b'] =
        .ok "<span style='color:red'>a</span><span style='color:blue'>b</span>".toList := by
  have accepts : ((Rule.compile? ['a'] ['a'] ['r','e','d']).bind fun rule =>
      (Rule.compile? ['b'] ['^','b'] ['b','l','u','e']).map fun later =>
        (Rule.segment [rule] ['a','b'],
          Fragment.assemble (highlightWith Format.html.renderer [later])
            (fun claimed color => Format.html.renderer.write (.styled claimed color))
            [.plain [],.styled ['a'] ['r','e','d'],.plain ['b']])) =
      some (.ok [.plain [],.styled ['a'] ['r','e','d'],.plain ['b']],
        .ok "<span style='color:red'>a</span><span style='color:blue'>b</span>".toList) := by
    decide
  have free : (Pattern.compile? ['a']).any Pattern.strays = false ∧
      (Pattern.compile? ['^','b']).any Pattern.strays = false := by
    decide
  obtain ⟨rule,compiled,accepts⟩ := Option.bind_eq_some_iff.mp accepts
  obtain ⟨later,compiled',facts⟩ := Option.map_eq_some_iff.mp accepts
  obtain ⟨divided,written⟩ := Prod.mk.inj facts
  have wellFormed : ∀ r ∈ [rule] ++ [later], r.pattern.search.WellFormed := by
    intro r member
    rcases List.mem_pair.mp member with rfl | rfl
    · exact Rule.wellFormed_of_compile? compiled free.1
    · exact Rule.wellFormed_of_compile? compiled' free.2
  obtain ⟨_,outputs,total⟩ := segment_fragmentwise [rule] [later] ['a','b']
  exact ⟨rule,later,compiled,compiled',wellFormed,total wellFormed,
    (outputs _ _).mpr ⟨_,divided,written⟩⟩

end Highlighting
