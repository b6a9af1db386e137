import Highlighting.Proofs.AustralRules
import Highlighting.Proofs.Composition

/-! Colors are carried along and never read, so a segmentation commutes with every change of the
colors. Markers whose colors tell their numbers apart give one segmentation from which those under
all lists of rules with the same patterns arise by recoloring: it assigns a rule to each styled
fragment, even where several rules share a color. -/
namespace Highlighting

namespace Fragment

def recolor (dye : Text → Text) : Fragment → Fragment
  | plain text => plain text
  | styled text color => styled text (dye color)

@[simp] theorem text_recolor (dye : Text → Text) (f : Fragment) : (f.recolor dye).text = f.text := by
  cases f <;> rfl

@[simp] theorem isPlain_recolor (dye : Text → Text) (f : Fragment) :
    (f.recolor dye).isPlain = f.isPlain := by
  cases f <;> rfl

end Fragment

namespace Marker

def recolor (dye : Text → Text) (marker : Marker) : Marker := ⟨marker.search,dye marker.color⟩

theorem divide_recolor (dye : Text → Text) (color : Text) (start : Nat) (rest : Text)
    (spans : List Span) :
    divide (dye color) start rest spans =
      (divide color start rest spans).map (List.map (Fragment.recolor dye)) := by
  induction spans generalizing start rest with
  | nil => rfl
  | cons m spans ih =>
    simp only [divide]
    split
    · rfl
    rcases rest.cut (m.start - start) with _ | ⟨gap,behind⟩
    · rfl
    dsimp only
    rcases behind.cut (m.stop - m.start) with _ | ⟨claimed,behind⟩
    · rfl
    simp only [ih]
    cases divide color m.stop behind spans <;> rfl

theorem split_recolor (dye : Text → Text) (marker : Marker) (text : Text) :
    (marker.recolor dye).split text =
      (marker.split text).map (List.map (Fragment.recolor dye)) := by
  rw [split,split,recolor]
  cases Scan.findAll marker.search text with
  | error fault => rfl
  | ok spans => exact divide_recolor dye marker.color 0 text spans

theorem apply_recolor (dye : Text → Text) (marker : Marker) (fragments : List Fragment) :
    (marker.recolor dye).apply (fragments.map (Fragment.recolor dye)) =
      (marker.apply fragments).map (List.map (Fragment.recolor dye)) := by
  induction fragments with
  | nil => rfl
  | cons f fragments ih =>
    cases f with
    | plain text =>
      simp only [List.map_cons,Fragment.recolor,apply,split_recolor,ih]
      cases marker.split text with
      | error fault => rfl
      | ok parts => cases marker.apply fragments <;> simp [Except.map,Except.bind]
    | styled text color =>
      simp only [List.map_cons,Fragment.recolor,apply,ih]
      cases marker.apply fragments <;> rfl

end Marker

theorem refine_recolor (dye : Text → Text) (fragments : List Fragment) (markers : List Marker) :
    refine (fragments.map (Fragment.recolor dye)) (markers.map (Marker.recolor dye)) =
      (refine fragments markers).map (List.map (Fragment.recolor dye)) := by
  induction markers generalizing fragments with
  | nil => rfl
  | cons marker markers ih =>
    simp only [List.map_cons,refine,Marker.apply_recolor]
    cases marker.apply fragments with
    | error fault => rfl
    | ok result => exact ih result

/-- Markers in other colors give the same fragments in these colors. -/
theorem segment_recolor (dye : Text → Text) (text : Text) (markers : List Marker) :
    segment text (markers.map (Marker.recolor dye)) =
      (segment text markers).map (List.map (Fragment.recolor dye)) :=
  refine_recolor dye [.plain text] markers

def tally (number : Nat) : Text := List.replicate number '|'

def numbered (searches : List Search) : List Marker :=
  searches.mapIdx fun number search => ⟨search,tally number⟩

/-- The color at the number that a tally tells. -/
def dyeFrom (colors : List Text) (number : Text) : Text := colors[number.length]?.getD []

@[simp] theorem dyeFrom_tally (colors : List Text) (number : Nat) :
    dyeFrom colors (tally number) = colors[number]?.getD [] := by
  simp [dyeFrom,tally]

theorem map_recolor_numbered (markers : List Marker) :
    (numbered (markers.map Marker.search)).map (Marker.recolor (dyeFrom (markers.map Marker.color))) =
      markers := by
  apply List.ext_getElem (by simp [numbered])
  intro i _ inside
  simp [numbered,Marker.recolor,inside]

theorem exists_number {searches : List Search} {text : Text} {shape : List Fragment}
    (returned : segment text (numbered searches) = .ok shape) {f : Fragment} (member : f ∈ shape)
    {color : Text} (colored : f.color? = some color) :
    ∃ number < searches.length, color = tally number := by
  obtain ⟨marker,isMarker,rfl⟩ := segment_colors returned f member color colored
  obtain ⟨number,inside,rfl⟩ := List.mem_mapIdx.mp isMarker
  exact ⟨number,inside,rfl⟩

namespace Rule

/-- The segmentation under markers that are numbered, in the colors of the rules. -/
theorem segment_eq_recolored (rules : List Rule) (text : Text) :
    segment rules text =
      (Highlighting.segment text (numbered ((rules.map pattern).map Pattern.search))).map
        (List.map (Fragment.recolor (dyeFrom (rules.map color)))) := by
  have searches : (rules.map pattern).map Pattern.search = (rules.map marker).map Marker.search := by
    simp [marker]
  have colors : rules.map color = (rules.map marker).map Marker.color := by simp [marker]
  rw [← segment_recolor,searches,colors,map_recolor_numbered]
  rfl

end Rule

/-- The fragments agree in number, texts and kinds, and each styled one has, in both lists, the color
of one and the same rule by number. -/
structure Recolored (rules rules' : List Rule) (fragments fragments' : List Fragment) : Prop where
  length : fragments.length = fragments'.length
  texts : fragments.map Fragment.text = fragments'.map Fragment.text
  kinds : fragments.map Fragment.isPlain = fragments'.map Fragment.isPlain
  assigned : ∃ number : Nat → Nat, ∀ i f f', fragments[i]? = some f → fragments'[i]? = some f' →
    f.isPlain = false → ∃ rule rule', rules[number i]? = some rule ∧ rules'[number i]? = some rule' ∧
      f.color? = some rule.color ∧ f'.color? = some rule'.color

theorem recolored_of_numbers {rules rules' : List Rule} (same : rules.length = rules'.length)
    {shape : List Fragment} (numbers : ∀ f ∈ shape, ∀ color, f.color? = some color →
      ∃ number < rules.length, color = tally number) :
    Recolored rules rules' (shape.map (Fragment.recolor (dyeFrom (rules.map Rule.color))))
      (shape.map (Fragment.recolor (dyeFrom (rules'.map Rule.color)))) := by
  refine ⟨by simp,by simp [Function.comp_def],by simp [Function.comp_def],
    fun i => ((shape[i]?.bind Fragment.color?).getD []).length,?_⟩
  intro i g g' atIndex atIndex' styled
  obtain ⟨f,inShape,rfl⟩ := Option.map_eq_some_iff.mp (List.getElem?_map .. ▸ atIndex)
  cases f with
  | plain text => contradiction
  | styled text color =>
    obtain ⟨number,inside,rfl⟩ := numbers _ (List.mem_of_getElem? inShape) color rfl
    have inside' : number < rules'.length := same ▸ inside
    rw [List.getElem?_map,inShape] at atIndex'
    cases atIndex'
    refine ⟨rules[number],rules'[number],?_,?_,?_,?_⟩ <;>
      simp [inShape,Fragment.color?,Fragment.recolor,tally,dyeFrom,inside,inside']

theorem Rule.exists_recolored {rules rules' : List Rule}
    (agree : rules.map Rule.pattern = rules'.map Rule.pattern) {text : Text}
    {fragments : List Fragment} (returned : segment rules text = .ok fragments) :
    ∃ fragments', segment rules' text = .ok fragments' ∧
      Recolored rules rules' fragments fragments' := by
  rw [segment_eq_recolored] at returned
  obtain ⟨shape,numbering,rfl⟩ := map_eq_ok_iff.mp returned
  have numbers (f) (member : f ∈ shape) (color) (colored : f.color? = some color) :
      ∃ number < rules.length, color = tally number := by
    simpa using exists_number numbering member colored
  rw [segment_eq_recolored rules',← agree,numbering]
  exact ⟨_,rfl,recolored_of_numbers (by simpa using congrArg List.length agree) numbers⟩

namespace Austral

def tokens : List TokenClass := patterns.map fun (_,_,token) => token

/-- A part of a text in the color that a palette gives to its token class, if it has one. -/
def painted (palette : Palette) : Text × Option TokenClass → Fragment
  | (text,none) => .plain text
  | (text,some token) => .styled text (palette.color token)

theorem keepsOutBehind_patterns :
    ∀ row ∈ patterns, Pattern.keepsOutBehind row.2.1 = false := by decide +kernel

theorem ruleList_wellFormed (palette : Palette) :
    ∀ rule ∈ ruleList palette, rule.pattern.search.WellFormed := by
  have free := keepsOutBehind_patterns
  simp only [patterns,List.forall_mem_cons] at free
  obtain ⟨comment,keyword,declaration,typeName,literal,_⟩ := free
  simp only [ruleList,List.forall_mem_cons]
  exact ⟨Pattern.search_wellFormed compile?_comment comment,
    Pattern.search_wellFormed compile?_keyword keyword,
    Pattern.search_wellFormed compile?_declaration declaration,
    Pattern.search_wellFormed compile?_typeName typeName,
    Pattern.search_wellFormed compile?_literal literal,by simp⟩

/-- The parts into which the rules divide a text, and their token classes, are the same for all
palettes. -/
theorem exists_parts (text : Text) : ∃ parts : List (Text × Option TokenClass),
    ∀ palette, Rule.segment (ruleList palette) text = .ok (parts.map (painted palette)) := by
  let searches := ((ruleList .standard).map Rule.pattern).map Pattern.search
  have recolored (palette : Palette) : Rule.segment (ruleList palette) text =
      (segment text (numbered searches)).map
        (List.map (Fragment.recolor (dyeFrom (tokens.map palette.color)))) :=
    Rule.segment_eq_recolored (ruleList palette) text
  obtain ⟨fragments,divided⟩ := Rule.segment_ok_of_wellFormed (ruleList_wellFormed .standard) text
  rw [recolored] at divided
  cases returned : segment text (numbered searches) with
  | error fault => rw [returned] at divided; contradiction
  | ok shape =>
    -- The color of a numbered marker tells the rule, and the rule tells the token class.
    refine ⟨shape.map fun f => (f.text,f.color?.bind fun number => tokens[number.length]?),?_⟩
    intro palette
    rw [recolored,returned,List.map_map]
    refine congrArg Except.ok (List.map_congr_left fun f member => ?_)
    cases f with
    | plain text => rfl
    | styled text color =>
      obtain ⟨number,inside,rfl⟩ := exists_number returned member rfl
      have inside : number < tokens.length := inside
      simp [Fragment.recolor,Fragment.text,Fragment.color?,painted,dyeFrom,tally,inside]

end Austral

/-- Names and colors of rules have no influence on what is matched. Rules with the same patterns fail
alike or divide a text into the same fragments, the styled ones of which have the colors of the same
rules. So the built-in language divides a text into the same parts under every palette. -/
theorem segment_same_but_colors [Libraries] {rules rules' : List Rule}
    (agree : rules.map Rule.pattern = rules'.map Rule.pattern) (text : Text) :
    (∀ fault, Rule.segment rules text = .error fault ↔ Rule.segment rules' text = .error fault) ∧
    (∀ fragments, Rule.segment rules text = .ok fragments →
      ∃ fragments', Rule.segment rules' text = .ok fragments' ∧
        Recolored rules rules' fragments fragments') ∧
    ((∀ rule ∈ rules, rule.pattern.search.WellFormed) →
      ∃ fragments, Rule.segment rules text = .ok fragments) ∧
    ∃ parts : List (Text × Option TokenClass), ∀ palette, ∃ austral,
      Austral.rules palette = .ok austral ∧
        Rule.segment austral text = .ok (parts.map (Austral.painted palette)) := by
  refine ⟨fun fault => ?_,fun fragments returned => Rule.exists_recolored agree returned,
    fun wellFormed => Rule.segment_ok_of_wellFormed wellFormed text,?_⟩
  · rw [Rule.segment_eq_recolored rules,Rule.segment_eq_recolored rules',← agree]
    cases segment text (numbered ((rules.map Rule.pattern).map Pattern.search)) <;> simp [Except.map]
  · obtain ⟨parts,divided⟩ := Austral.exists_parts text
    exact ⟨parts,fun palette => ⟨_,Austral.rules_eq palette,divided palette⟩⟩

/-- Two rules, each with its color for a name. -/
def pairOfRules (a b : Pattern) (color color' : Text) : List Rule :=
  [⟨color,a,color⟩,⟨color',b,color'⟩]

/-- The rules share a color in the first list, but not in the second one. -/
theorem segment_same_but_colors_shared :
    ∃ a b, Pattern.compile? ['a'] = some a ∧ Pattern.compile? ['b'] = some b ∧
      (pairOfRules a b ['r'] ['r']).map Rule.pattern = (pairOfRules a b ['s'] ['t']).map Rule.pattern ∧
      ∃ fragments', Rule.segment (pairOfRules a b ['s'] ['t']) ['a','b'] = .ok fragments' ∧
        Recolored (pairOfRules a b ['r'] ['r']) (pairOfRules a b ['s'] ['t'])
          [.plain [],.styled ['a'] ['r'],.plain [],.styled ['b'] ['r'],.plain []] fragments' := by
  have accepts : ((Pattern.compile? ['a']).bind fun a => (Pattern.compile? ['b']).map fun b =>
      Rule.segment (pairOfRules a b ['r'] ['r']) ['a','b']) =
      some (.ok [.plain [],.styled ['a'] ['r'],.plain [],.styled ['b'] ['r'],.plain []]) := by
    decide
  obtain ⟨a,compiled,accepts⟩ := Option.bind_eq_some_iff.mp accepts
  obtain ⟨b,compiled',divided⟩ := Option.map_eq_some_iff.mp accepts
  have agree : (pairOfRules a b ['r'] ['r']).map Rule.pattern =
      (pairOfRules a b ['s'] ['t']).map Rule.pattern := rfl
  exact ⟨a,b,compiled,compiled',agree,(segment_same_but_colors agree ['a','b']).2.1 _ divided⟩

end Highlighting
