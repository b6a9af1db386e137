import Highlighting.Proofs.Assignments

/-! Lines of a settings file that should not count: comments, lines that give no known key a value, and
values that make no sense. Almost always the settings are the same without such a line. But all lines
go into one table before the values are looked at, so a last value that makes no sense hides an
earlier one that does. -/
namespace Highlighting

namespace Settings

variable {line : Text} {earlier later : List Text}

def knownKeys : List Text := ["format".toList,"language".toList,"rules".toList]

inductive Ignorable (line : Text) : Prop
  | blank (nothing : Text.trim line = [])
  | comment (mark : (Text.trim line).head? = some '#')
  | noEquals (absent : '=' ∉ line)
  | otherKey {key value : Text} (gives : Gives line key value) (unknown : key ∉ knownKeys)
  | badFormat {value : Text} (gives : Gives line "format".toList value)
      (bad : Format.ofName? value = none)
  | emptyLanguage (gives : Gives line "language".toList [])

/-- A value without sense is the last one of its key, and without it an earlier value would count that
is not the one which settings have anyway. -/
inductive Hides (earlier : List Text) (line : Text) (later : List Text) : Prop
  | format {value good : Text} {format : Format} (gives : Gives line "format".toList value)
      (bad : Format.ofName? value = none) (last : Silent later "format".toList)
      (before : LastGives earlier "format".toList good) (named : Format.ofName? good = some format)
      (other : format ≠ .html)
  | language {good : Text} (gives : Gives line "language".toList [])
      (last : Silent later "language".toList) (before : LastGives earlier "language".toList good)
      (nonempty : good ≠ [])

/-- The setting that the last value of a key makes, or the one that there is anyway. -/
def chosen {α : Type} (read : Text → Option α) (default : α) (key : Text) (lines : List Text) : α :=
  ((lastValue? key lines).bind read).getD default

section

variable {α : Type} {read : Text → Option α} {default : α} {key value : Text}

theorem chosen_of_silent (silent : valueFor? key line = none) :
    chosen read default key (earlier ++ line :: later) =
      chosen read default key (earlier ++ later) := by
  rw [chosen,chosen,lastValue?_append,lastValue?_append,lastValue?_cons,silent,Option.or_none]

/-- Without a value that cannot be read, a setting stays the same unless the value hides another one. -/
theorem chosen_of_bad (gives : Gives line key value) (bad : read value = none) :
    chosen read default key (earlier ++ later) = chosen read default key (earlier ++ line :: later) ↔
      ¬ ∃ good a, Silent later key ∧ LastGives earlier key good ∧ read good = some a ∧
        a ≠ default := by
  simp only [chosen,lastValue?_append,lastValue?_cons,valueFor?_eq_some_iff.mpr gives]
  cases last : lastValue? key later with
  | some hidden =>
    -- Another value behind the bad one counts, with it or without.
    have spoken : ¬ Silent later key := by
      rw [← lastValue?_eq_none_iff,last]
      simp
    simp [spoken]
  | none =>
    have silent : Silent later key := lastValue?_eq_none_iff.mp last
    simp only [Option.none_or,Option.some_or,Option.bind_some,bad,Option.getD_none,silent,true_and]
    cases before : lastValue? key earlier with
    | none =>
      have spoken : ∀ good, ¬ LastGives earlier key good := by
        intro good
        rw [← lastValue?_eq_some_iff,before]
        simp
      simp [spoken]
    | some good =>
      -- This is the value that the bad one hides, if it can be read and is not the default.
      have only : ∀ good', LastGives earlier key good' ↔ good = good' := by
        intro good'
        rw [← lastValue?_eq_some_iff,before,Option.some.injEq]
      simp only [only,Option.bind_some]
      cases named : read good with
      | none => simp [named]
      | some a => simp [named,eq_comm]

end

def languageOf? (value : Text) : Option (Option Text) := if value = [] then none else some (some value)

theorem parse_eq_chosen (home : Option Text) (contents : Text) :
    parse home contents =
      { format := chosen Format.ofName? .html "format".toList (Text.lines contents)
        language := chosen languageOf? none "language".toList (Text.lines contents)
        ruleFiles := chosen (fun value => some (paths home value)) [] "rules".toList
          (Text.lines contents) } := by
  rw [parse_eq]
  simp only [chosen,mk.injEq,true_and]
  constructor
  · cases lastValue? "language".toList (Text.lines contents) with
    | none => rfl
    | some value => cases value <;> rfl
  · cases lastValue? "rules".toList (Text.lines contents) <;> rfl

theorem Gives.valueFor?_other {key value other : Text} (gives : Gives line key value)
    (apart : key ≠ other) : valueFor? other line = none :=
  valueFor?_eq_none_iff.mpr (gives.not_other apart)

theorem not_gives {key value : Text}
    (silent : Text.trim line = [] ∨ (Text.trim line).head? = some '#' ∨ '=' ∉ line) :
    ¬ Gives line key value := by
  rintro ⟨parts,first,noComment⟩
  rcases silent with nothing | mark | absent
  · simp [nothing] at parts
  · exact noComment mark
  · have member : '=' ∈ Text.trim line := by simp [parts]
    exact absent ((Text.trim_sublist line).mem member)

/-- Of the lines that should not count, only those with a known key are looked at. -/
theorem Ignorable.cases (ignorable : Ignorable line) :
    (∀ key ∈ knownKeys, valueFor? key line = none) ∨
    (∃ value, Gives line "format".toList value ∧ Format.ofName? value = none) ∨
    Gives line "language".toList [] := by
  have unseen (silent : Text.trim line = [] ∨ (Text.trim line).head? = some '#' ∨ '=' ∉ line) :
      ∀ key ∈ knownKeys, valueFor? key line = none :=
    fun key _ => valueFor?_eq_none_iff.mpr fun value => not_gives silent
  cases ignorable with
  | blank nothing => exact .inl (unseen (.inl nothing))
  | comment mark => exact .inl (unseen (.inr (.inl mark)))
  | noEquals absent => exact .inl (unseen (.inr (.inr absent)))
  | otherKey gives unknown =>
    refine .inl fun key known => gives.valueFor?_other ?_
    rintro rfl
    exact unknown known
  | badFormat gives bad => exact .inr (.inl ⟨_,gives,bad⟩)
  | emptyLanguage gives => exact .inr (.inr gives)

theorem hides_format_iff {value : Text} (gives : Gives line "format".toList value)
    (bad : Format.ofName? value = none) :
    Hides earlier line later ↔ ∃ good format, Silent later "format".toList ∧
      LastGives earlier "format".toList good ∧ Format.ofName? good = some format ∧
        format ≠ .html := by
  constructor
  · rintro (⟨_,_,last,before,named,other⟩ | ⟨gives',_,_,_⟩)
    · exact ⟨_,_,last,before,named,other⟩
    · exact absurd gives' (gives.not_other (by decide) [])
  · rintro ⟨good,format,last,before,named,other⟩
    exact .format gives bad last before named other

theorem hides_language_iff (gives : Gives line "language".toList []) :
    Hides earlier line later ↔ ∃ good language, Silent later "language".toList ∧
      LastGives earlier "language".toList good ∧ languageOf? good = some language ∧
        language ≠ none := by
  constructor
  · rintro (⟨gives',_,_,_,_,_⟩ | ⟨_,last,before,nonempty⟩)
    · exact absurd gives' (gives.not_other (by decide) _)
    · exact ⟨_,_,last,before,if_neg nonempty,by simp⟩
  · rintro ⟨good,language,last,before,read,_⟩
    refine .language gives last before ?_
    rintro rfl
    contradiction

theorem parse_drop_iff {contents contents' : Text} (home : Option Text)
    (whole : Text.lines contents = earlier ++ line :: later)
    (without : Text.lines contents' = earlier ++ later) (ignorable : Ignorable line) :
    parse home contents' = parse home contents ↔ ¬ Hides earlier line later := by
  rw [parse_eq_chosen,parse_eq_chosen,whole,without,mk.injEq]
  rcases ignorable.cases with unseen | ⟨value,gives,bad⟩ | gives
  · have never : ¬ Hides earlier line later := by
      rintro (⟨gives,_,_,_,_,_⟩ | ⟨gives,_,_,_⟩)
      · exact valueFor?_eq_none_iff.mp (unseen _ (by simp [knownKeys])) _ gives
      · exact valueFor?_eq_none_iff.mp (unseen _ (by simp [knownKeys])) _ gives
    simp only [never,not_false_eq_true,iff_true]
    exact ⟨(chosen_of_silent (unseen _ (by simp [knownKeys]))).symm,
      (chosen_of_silent (unseen _ (by simp [knownKeys]))).symm,
      (chosen_of_silent (unseen _ (by simp [knownKeys]))).symm⟩
  · have noLanguage : valueFor? "language".toList line = none := gives.valueFor?_other (by decide)
    have noRules : valueFor? "rules".toList line = none := gives.valueFor?_other (by decide)
    rw [chosen_of_silent noLanguage,chosen_of_silent noRules,chosen_of_bad gives bad,
      hides_format_iff gives bad]
    simp
  · have noFormat : valueFor? "format".toList line = none := gives.valueFor?_other (by decide)
    have noRules : valueFor? "rules".toList line = none := gives.valueFor?_other (by decide)
    rw [chosen_of_silent noFormat,chosen_of_silent noRules,chosen_of_bad gives (if_pos rfl),
      hides_language_iff gives]
    simp

/-- Where lines say nothing but formats, the last one counts. -/
theorem parse_of_formats {home : Option Text} {contents value : Text} {lines : List Text}
    (isLines : Text.lines contents = lines)
    (formats : ∀ line ∈ lines, ∃ value, Gives line "format".toList value)
    (last : LastGives lines "format".toList value) :
    parse home contents = { format := (Format.ofName? value).getD .html } := by
  have silent {key : Text} (apart : "format".toList ≠ key) : lastValue? key lines = none := by
    rw [lastValue?_eq_none_iff]
    intro line member
    obtain ⟨value,gives⟩ := formats line member
    exact gives.not_other apart
  rw [parse_eq,isLines,lastValue?_eq_some_iff.mpr last,silent (by decide),silent (by decide)]
  rfl

end Settings

namespace CommandLine

open Settings

/-- Without a line that should not count, the settings are the same exactly if the line does not hide
an earlier value. -/
theorem settings_of_dropped_line {s s' : Surroundings Id} {home contents contents' line : Text}
    {earlier later : List Text} (configured : s.Configured home contents)
    (configured' : s'.Configured home contents')
    (whole : Text.lines contents = earlier ++ line :: later)
    (without : Text.lines contents' = earlier ++ later) (ignorable : Ignorable line) :
    s'.settings = s.settings ↔ ¬ Hides earlier line later := by
  rw [settings_of_configured configured,settings_of_configured configured']
  exact parse_drop_iff (some home) whole without ignorable

def pdfLine : Text := "format".toList ++ '=' :: "pdf".toList

theorem pdfLine_gives : Gives pdfLine "format".toList "pdf".toList := gives_ascii (by decide +kernel)

theorem ofName?_pdf : Format.ofName? "pdf".toList = none := by
  rw [Format.ofName?,Format.lower_trim (by decide +kernel)]
  rfl

/-- Before a format that there is, the line does nothing. -/
theorem settings_of_dropped_line_before :
    (Surroundings.keeping "format=ansi".toList).settings =
      (Surroundings.keeping "format=pdf\nformat=ansi".toList).settings := by
  have whole : Text.lines "format=pdf\nformat=ansi".toList = [] ++ pdfLine :: [ansiLine] := by decide
  have without : Text.lines "format=ansi".toList = [] ++ [ansiLine] := by decide
  refine (settings_of_dropped_line (Surroundings.configured_keeping _)
    (Surroundings.configured_keeping _) whole without
      (.badFormat pdfLine_gives ofName?_pdf)).mpr ?_
  rintro (⟨_,_,last,_,_,_⟩ | ⟨gives,_,_,_⟩)
  · exact last ansiLine (by simp) _ ansiLine_gives
  · exact absurd gives (pdfLine_gives.not_other (by decide) [])

/-- Behind a format that there is, the line makes the settings forget it. -/
theorem bad_format_hides_good :
    Ignorable pdfLine ∧ Text.lines "format=ansi\nformat=pdf".toList = [ansiLine,pdfLine] ∧
      Text.lines "format=ansi".toList = [ansiLine] ∧
      (Surroundings.keeping "format=ansi".toList).settings = { format := .ansi } ∧
      (Surroundings.keeping "format=ansi\nformat=pdf".toList).settings = { format := .html } := by
  have whole : Text.lines "format=ansi\nformat=pdf".toList = [ansiLine,pdfLine] := by decide
  have without : Text.lines "format=ansi".toList = [ansiLine] := by decide
  refine ⟨.badFormat pdfLine_gives ofName?_pdf,whole,without,?_,?_⟩
  · rw [settings_of_configured (Surroundings.configured_keeping _),
      parse_of_formats without (by simpa using ⟨_,ansiLine_gives⟩) (ansiLine_gives.last []),
      Format.ofName?_ansi]
    rfl
  · rw [settings_of_configured (Surroundings.configured_keeping _),
      parse_of_formats whole (by simpa using ⟨⟨_,ansiLine_gives⟩,_,pdfLine_gives⟩)
        (pdfLine_gives.last [ansiLine]),ofName?_pdf]
    rfl

end CommandLine

end Highlighting
