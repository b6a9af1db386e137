import Mathlib.Data.List.Basic
import Highlighting.Proofs.Totality

/-! Reading markup back. Nothing in markup is escaped, so a text or a color could pass for a tag; but
where no text holds `<` and no color a quotation mark, a tag begins at every `<` and nowhere else.
Since plain and styled fragments alternate, an empty plain fragment can be told from none. -/
namespace Highlighting

theorem dropPrefix?_eq_some {start text rest : Text} :
    text.dropPrefix? start = some rest ↔ text = start ++ rest := by
  rw [List.dropPrefix?_eq_some_iff]
  constructor
  · rintro ⟨_,rfl,same⟩
    rw [eq_of_beq same]
  · rintro rfl
    exact ⟨start,rfl,beq_self_eq_true start⟩

namespace Markup

def opening? (markup : Text) : Option (Text × Text) := do
  let rest ← markup.dropPrefix? "<span style='color:".toList
  let (color,rest) ← Text.splitOnce? '\'' rest
  let rest ← rest.dropPrefix? ['>']
  some (color,rest)

def closing? (markup : Text) : Option Text := markup.dropPrefix? "</span>".toList

/-- Reads an element around a text without tags: the text, its color, and what follows. -/
def element? (markup : Text) : Option (Text × Text × Text) := do
  let (color,rest) ← opening? markup
  let (claimed,rest) ← Text.splitOnce? '<' rest
  let rest ← closing? ('<' :: rest)
  some (claimed,color,rest)

theorem openingTag_eq : "<span style='color:".toList = '<' :: "span style='color:".toList := by simp

theorem closingTag_eq : "</span>".toList = '<' :: "/span>".toList := by simp

theorem opening?_eq_some {markup color rest : Text} :
    opening? markup = some (color,rest) ↔
      markup = "<span style='color:".toList ++ color ++ "'>".toList ++ rest ∧ '\'' ∉ color := by
  simp only [opening?,Option.bind_eq_bind,Option.bind_eq_some_iff,Prod.exists,
    dropPrefix?_eq_some,Text.splitOnce?_eq_some]
  constructor
  · rintro ⟨_,rfl,_,_,⟨rfl,absent⟩,_,rfl,same⟩
    cases same
    exact ⟨by simp,absent⟩
  · rintro ⟨rfl,absent⟩
    exact ⟨_,by simp,color,_,⟨rfl,absent⟩,rest,rfl,rfl⟩

theorem closing?_eq_some {markup rest : Text} :
    closing? markup = some rest ↔ markup = "</span>".toList ++ rest :=
  dropPrefix?_eq_some

theorem element?_eq_some {markup claimed color rest : Text} :
    element? markup = some (claimed,color,rest) ↔
      markup = (Fragment.styled claimed color).html ++ rest ∧ '<' ∉ claimed ∧ '\'' ∉ color := by
  simp only [element?,Option.bind_eq_bind,Option.bind_eq_some_iff,Prod.exists,opening?_eq_some,
    closing?_eq_some,Text.splitOnce?_eq_some,Fragment.html_styled,List.append_assoc]
  constructor
  · rintro ⟨_,_,⟨opened,noQuote⟩,_,_,⟨split,noTag⟩,_,closed,same⟩
    cases same
    rw [closed] at split
    rw [split] at opened
    exact ⟨opened,noTag,noQuote⟩
  · rintro ⟨tagged,noTag,noQuote⟩
    rw [closingTag_eq,List.cons_append] at tagged
    refine ⟨color,_,⟨tagged,noQuote⟩,claimed,_,⟨rfl,noTag⟩,rest,?_,rfl⟩
    rw [closingTag_eq,List.cons_append]

def part? (markup : Text) : Option ((Text × Text × Text) × Text) := do
  let (gap,rest) ← Text.splitOnce? '<' markup
  let (claimed,color,rest) ← element? ('<' :: rest)
  some ((gap,claimed,color),rest)

theorem part?_eq_some {markup gap claimed color rest : Text} :
    part? markup = some ((gap,claimed,color),rest) ↔
      markup = gap ++ ((Fragment.styled claimed color).html ++ rest) ∧
        '<' ∉ gap ∧ '<' ∉ claimed ∧ '\'' ∉ color := by
  simp only [part?,Option.bind_eq_bind,Option.bind_eq_some_iff,Prod.exists,element?_eq_some,
    Text.splitOnce?_eq_some]
  constructor
  · rintro ⟨_,_,⟨split,noTag⟩,_,_,_,⟨element,free⟩,same⟩
    cases same
    rw [element] at split
    exact ⟨split,noTag,free⟩
  · rintro ⟨split,noTag,free⟩
    rw [Fragment.html_styled,openingTag_eq] at split
    refine ⟨gap,_,⟨split,noTag⟩,claimed,color,rest,⟨?_,free⟩,rfl⟩
    rw [Fragment.html_styled,openingTag_eq]
    rfl

def decode (markup : Text) : Option (List Fragment) :=
  match _read : part? markup with
  | some ((gap,claimed,color),rest) => (decode rest).map (.plain gap :: .styled claimed color :: ·)
  | none => if '<' ∈ markup then none else some [.plain markup]
termination_by markup.length
decreasing_by
  obtain ⟨split,_⟩ := part?_eq_some.mp _read
  rw [split,Fragment.html_styled,closingTag_eq]
  simp only [List.length_append,List.length_cons]
  omega

theorem decode_gap {gap : Text} (noTag : '<' ∉ gap) : decode gap = some [.plain gap] := by
  have none : part? gap = none := by simp [part?,Text.splitOnce?_eq_none.mpr noTag]
  rw [decode]
  split <;> simp_all

theorem decode_part {markup gap claimed color rest : Text}
    (read : part? markup = some ((gap,claimed,color),rest)) :
    decode markup = (decode rest).map (.plain gap :: .styled claimed color :: ·) := by
  rw [decode]
  split <;> simp_all

def Tagless (f : Fragment) : Prop := '<' ∉ f.text ∧ ∀ color, f.color? = some color → '\'' ∉ color

theorem tagless_plain (text : Text) : Tagless (.plain text) ↔ '<' ∉ text := by
  simp [Tagless,Fragment.text,Fragment.color?]

theorem tagless_styled (text color : Text) :
    Tagless (.styled text color) ↔ '<' ∉ text ∧ '\'' ∉ color := by
  simp [Tagless,Fragment.text,Fragment.color?]

theorem render_cons (f : Fragment) (fs : List Fragment) :
    render .html (f :: fs) = f.html ++ render .html fs := by
  simp [render,Fragment.render]

/-- Fragments that alternate are read back from their markup. -/
theorem decode_render {fragments : List Fragment} (alternates : Alternates fragments)
    (tagless : ∀ f ∈ fragments, Tagless f) :
    decode (render .html fragments) = some fragments := by
  induction alternates with
  | last text =>
    rw [render_cons,Fragment.html_plain]
    have noTag := (tagless_plain text).mp (tagless _ List.mem_cons_self)
    simpa [render] using decode_gap noTag
  | more _ ih =>
    simp only [List.forall_mem_cons,tagless_plain,tagless_styled] at tagless
    obtain ⟨noTag,free,tagless⟩ := tagless
    rw [render_cons,render_cons,Fragment.html_plain,
      decode_part (part?_eq_some.mpr ⟨rfl,noTag,free⟩),ih tagless]
    rfl

def tag? (markup : Text) : Option Text :=
  match opening? markup with
  | some (_,rest) => some rest
  | none => closing? markup

theorem tag?_eq_some {markup rest : Text} (read : tag? markup = some rest) :
    ∃ tag, markup = '<' :: (tag ++ rest) := by
  unfold tag? at read
  split at read
  next color _ opened =>
    cases read
    rw [(opening?_eq_some.mp opened).1,openingTag_eq]
    exact ⟨"span style='color:".toList ++ color ++ "'>".toList,by simp⟩
  next =>
    rw [closing?_eq_some.mp read,closingTag_eq]
    exact ⟨_,rfl⟩

def strip : Text → Text
  | [] => []
  | c :: rest =>
    match _read : tag? (c :: rest) with
    | some behind => strip behind
    | none => c :: strip rest
termination_by markup => markup.length
decreasing_by
  · obtain ⟨tag,begins⟩ := tag?_eq_some _read
    have whole := congrArg List.length begins
    simp only [List.length_cons,List.length_append] at whole ⊢
    omega
  · simp

theorem strip_gap {gap : Text} (noTag : '<' ∉ gap) (rest : Text) :
    strip (gap ++ rest) = gap ++ strip rest := by
  induction gap with
  | nil => rfl
  | cons c gap ih =>
    obtain ⟨first,later⟩ := not_or.mp (mt List.mem_cons.mpr noTag)
    have none : tag? (c :: (gap ++ rest)) = none := by
      by_contra some
      obtain ⟨behind,read⟩ := Option.ne_none_iff_exists'.mp some
      obtain ⟨tag,begins⟩ := tag?_eq_some read
      exact first (List.cons.inj begins).1.symm
    rw [List.cons_append,strip]
    split <;> simp_all

theorem strip_tag {markup rest : Text} (read : tag? markup = some rest) :
    strip markup = strip rest := by
  obtain ⟨tag,rfl⟩ := tag?_eq_some read
  rw [strip]
  split <;> simp_all

theorem tag?_of_opening? {markup color rest : Text} (read : opening? markup = some (color,rest)) :
    tag? markup = some rest := by
  rw [tag?,read]

theorem tag?_closing (rest : Text) : tag? ("</span>".toList ++ rest) = some rest := by
  have none : opening? ("</span>".toList ++ rest) = none := by
    by_contra some
    obtain ⟨⟨color,behind⟩,read⟩ := Option.ne_none_iff_exists'.mp some
    have same := (opening?_eq_some.mp read).1
    simp at same
  rw [tag?,none]
  exact closing?_eq_some.mpr rfl

theorem strip_html {f : Fragment} (tagless : Tagless f) (rest : Text) :
    strip (f.html ++ rest) = f.text ++ strip rest := by
  cases f with
  | plain text => exact strip_gap ((tagless_plain text).mp tagless) rest
  | styled text color =>
    obtain ⟨noTag,noQuote⟩ := (tagless_styled text color).mp tagless
    have opened : opening? ((Fragment.styled text color).html ++ rest) =
        some (color,text ++ ("</span>".toList ++ rest)) :=
      opening?_eq_some.mpr ⟨by simp only [Fragment.html_styled,List.append_assoc],noQuote⟩
    rw [strip_tag (tag?_of_opening? opened),strip_gap noTag,strip_tag (tag?_closing rest)]
    rfl

theorem strip_render {fragments : List Fragment} (tagless : ∀ f ∈ fragments, Tagless f) :
    strip (render .html fragments) = Fragment.concat fragments := by
  induction fragments with
  | nil => simp [render,strip]
  | cons f rest ih =>
    obtain ⟨first,later⟩ := List.forall_mem_cons.mp tagless
    rw [render_cons,strip_html first,ih later,Fragment.concat_cons]

/-- Rules keep the text and bring in their own colors alone. -/
theorem tagless_of_segment {rules : List Rule} {text : Text} {fragments : List Fragment}
    (returned : Rule.segment rules text = .ok fragments) (noTag : '<' ∉ text)
    (noQuote : ∀ rule ∈ rules, '\'' ∉ rule.color) : ∀ f ∈ fragments, Tagless f := by
  intro f member
  refine ⟨fun inside => ?_,fun color colored => ?_⟩
  · rw [← concat_of_segment returned] at noTag
    exact noTag (Fragment.mem_concat_of_mem member inside)
  · obtain ⟨marker,isMarker,rfl⟩ := segment_colors returned f member color colored
    obtain ⟨rule,isRule,rfl⟩ := List.mem_map.mp isMarker
    exact noQuote rule isRule

/-- The markup of a segmentation is read back as that segmentation. -/
theorem decode_of_highlight {rules : List Rule} {text markup : Text}
    (written : highlight .html rules text = .ok markup) (noTag : '<' ∉ text)
    (noQuote : ∀ rule ∈ rules, '\'' ∉ rule.color) :
    ∃ fragments, Rule.segment rules text = .ok fragments ∧ decode markup = some fragments ∧
      strip markup = text := by
  cases returned : Rule.segment rules text with
  | error fault => rw [highlight,returned] at written; contradiction
  | ok fragments =>
    rw [highlight,returned] at written
    cases written
    have tagless := tagless_of_segment returned noTag noQuote
    refine ⟨fragments,rfl,decode_render (alternates_of_segment returned) tagless,?_⟩
    rw [strip_render tagless,concat_of_segment returned]

end Markup

/-- Where neither a `<` in the text nor a quotation mark in a color can pass for a tag, markup can be
read back: the fragments are exactly those that were written, empty ones included, and the text
without the tags is the text that was highlighted. So no other segmentation has the same markup. -/
theorem html_read_back {rules : List Rule} {text : Text}
    (wellFormed : ∀ rule ∈ rules, rule.pattern.search.WellFormed) (noTag : '<' ∉ text)
    (noQuote : ∀ rule ∈ rules, '\'' ∉ rule.color) :
    ∃ fragments markup, Rule.segment rules text = .ok fragments ∧
      highlight .html rules text = .ok markup ∧ Markup.decode markup = some fragments ∧
      Markup.strip markup = text ∧
      ∀ rules' text', '<' ∉ text' → (∀ rule ∈ rules', '\'' ∉ rule.color) →
        highlight .html rules' text' = .ok markup →
        Rule.segment rules' text' = .ok fragments ∧ text' = text := by
  obtain ⟨fragments,returned⟩ := Rule.segment_ok_of_wellFormed wellFormed text
  have written : highlight .html rules text = .ok (render .html fragments) := by
    rw [highlight,returned]
    rfl
  obtain ⟨_,same,decoded,stripped⟩ := Markup.decode_of_highlight written noTag noQuote
  rw [returned] at same
  cases same
  refine ⟨fragments,_,returned,written,decoded,stripped,?_⟩
  intro rules' text' noTag' noQuote' written'
  obtain ⟨other,returned',decoded',stripped'⟩ :=
    Markup.decode_of_highlight written' noTag' noQuote'
  rw [decoded] at decoded'
  cases decoded'
  exact ⟨returned',stripped'.symm.trans stripped⟩

/-- Matches of nothing leave empty elements and empty gaps, which are read back too. -/
theorem html_read_back_empty :
    ∃ rule, Rule.compile? ['x'] ['x','*'] ['r','e','d'] = some rule ∧
      (∀ r ∈ [rule], r.pattern.search.WellFormed) ∧ '<' ∉ ['a','é'] ∧
      (∀ r ∈ [rule], '\'' ∉ r.color) ∧
      ∃ fragments markup, Rule.segment [rule] ['a','é'] = .ok fragments ∧
        highlight .html [rule] ['a','é'] = .ok markup ∧ Markup.decode markup = some fragments ∧
        Markup.strip markup = ['a','é'] ∧ fragments.length = 7 := by
  have accepts : ((Rule.compile? ['x'] ['x','*'] ['r','e','d']).map fun rule =>
      ((Rule.segment [rule] ['a','é']).map List.length,rule.color)) =
        some (.ok 7,['r','e','d']) := by
    decide
  have free : Pattern.keepsOutBehind ['x','*'] = false := by decide
  obtain ⟨rule,compiled,facts⟩ := Option.map_eq_some_iff.mp accepts
  obtain ⟨count,color⟩ := Prod.mk.inj facts
  have wellFormed : ∀ r ∈ [rule], r.pattern.search.WellFormed := by
    simpa using Rule.wellFormed_of_compile? compiled free
  have noTag : '<' ∉ ['a','é'] := by decide
  have noQuote : ∀ r ∈ [rule], '\'' ∉ r.color := by simp [color]
  obtain ⟨fragments,markup,returned,written,decoded,stripped,_⟩ :=
    html_read_back wellFormed noTag noQuote
  rw [returned] at count
  exact ⟨rule,compiled,wellFormed,noTag,noQuote,fragments,markup,returned,written,decoded,stripped,
    Except.ok.inj count⟩

end Highlighting
