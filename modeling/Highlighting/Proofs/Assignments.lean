import Mathlib.Data.List.Forall2
import Highlighting.Proofs.Choice

/-! Which lines of a settings file count. Of all lines that give a key a value, only the last one does,
so a line may change its place among those of other keys, and neither the case of a key nor white
space around keys and values matters. -/
namespace Highlighting

namespace Settings

/-- The line gives the key the value: it is no comment, and the key stands before its first equals
sign, in any case and between any white space. All that follows is the value, with more equals signs
and number signs if there are any. -/
inductive Gives (line : Text) : Text → Text → Prop
  | intro {name rest : Text} (parts : Text.trim line = name ++ '=' :: rest) (first : '=' ∉ name)
      (noComment : (Text.trim line).head? ≠ some '#') :
      Gives line (Text.lower (Text.trim name)) (Text.trim rest)

theorem assignment?_eq_some_iff {line key value : Text} :
    assignment? line = some (key,value) ↔ Gives line key value := by
  constructor
  · intro given
    simp only [assignment?] at given
    split at given
    · contradiction
    · next counts =>
      simp only [Bool.or_eq_true,beq_iff_eq,not_or] at counts
      obtain ⟨⟨name,rest⟩,parts,same⟩ := Option.map_eq_some_iff.mp given
      obtain ⟨parts,first⟩ := Text.splitOnce?_eq_some.mp parts
      cases same
      exact .intro parts first counts.2
  · rintro ⟨parts,first,noComment⟩
    have counts : ¬ ((Text.trim line).isEmpty || (Text.trim line).head? == some '#') := by
      simpa [noComment] using by simp [parts]
    simp only [assignment?,if_neg counts,Text.splitOnce?_eq_some.mpr ⟨parts,first⟩,Option.map_some]

theorem Gives.unique {line key key' value value' : Text} (gives : Gives line key value)
    (gives' : Gives line key' value') : key = key' ∧ value = value' := by
  have one := assignment?_eq_some_iff.mpr gives
  rw [assignment?_eq_some_iff.mpr gives'] at one
  simpa using one.symm

theorem Gives.not_other {line key value other : Text} (gives : Gives line key value)
    (apart : key ≠ other) (value' : Text) : ¬ Gives line other value' :=
  fun gives' => apart (gives.unique gives').1

theorem equals_shows : ¬ Unicode.isBlank '=' := by decide +kernel

theorem gives_of_parts {name : Text} (first : '=' ∉ name)
    (noComment : (Text.trimStart name).head? ≠ some '#') (rest : Text) :
    Gives (name ++ '=' :: rest) (Text.lower (Text.trim name)) (Text.trim rest) := by
  have parts := Text.trim_around name equals_shows rest
  rw [← Text.trim_trimStart name,← Text.trim_trimEnd rest]
  refine .intro parts (fun later => first ((List.dropWhile_sublist _).mem later)) ?_
  rw [parts]
  cases start : Text.trimStart name with
  | nil => simp
  | cons c more => simpa [start] using noComment

theorem gives_ascii {name rest key value : Text}
    (facts : '=' ∉ name ∧ (Text.trimStart name).head? ≠ some '#' ∧
      (Text.trim name).all (·.toNat < 0x80) = true ∧ (Text.trim name).map Char.toLower = key ∧
      Text.trim rest = value) : Gives (name ++ '=' :: rest) key value := by
  obtain ⟨first,noComment,ascii,rfl,rfl⟩ := facts
  rw [← Text.lower_ascii ascii]
  exact gives_of_parts first noComment rest

def valueFor? (key line : Text) : Option Text :=
  (assignment? line).bind fun given => if given.1 = key then some given.2 else none

theorem valueFor?_eq_some_iff {key line value : Text} :
    valueFor? key line = some value ↔ Gives line key value := by
  rw [← assignment?_eq_some_iff,valueFor?,Option.bind_eq_some_iff]
  constructor
  · rintro ⟨⟨name,rest⟩,given,same⟩
    split at same
    · next isKey => simpa [← isKey] using given.trans (by simpa using same)
    · contradiction
  · intro given
    exact ⟨_,given,by simp⟩

theorem valueFor?_eq_none_iff {key line : Text} :
    valueFor? key line = none ↔ ∀ value, ¬ Gives line key value := by
  simp only [Option.eq_none_iff_forall_ne_some,ne_eq,valueFor?_eq_some_iff]

def lastValue? (key : Text) (lines : List Text) : Option Text :=
  lines.reverse.findSome? (valueFor? key)

theorem lastValue?_append (key : Text) (earlier later : List Text) :
    lastValue? key (earlier ++ later) = (lastValue? key later).or (lastValue? key earlier) := by
  simp [lastValue?,List.findSome?_append]

theorem lastValue?_cons (key line : Text) (later : List Text) :
    lastValue? key (line :: later) = (lastValue? key later).or (valueFor? key line) := by
  simp [lastValue?,List.findSome?_append]

def LastGives (lines : List Text) (key value : Text) : Prop :=
  ∃ earlier line later, lines = earlier ++ line :: later ∧ Gives line key value ∧
    ∀ other ∈ later, ∀ value, ¬ Gives other key value

theorem Gives.last {line key value : Text} (gives : Gives line key value) (earlier : List Text) :
    LastGives (earlier ++ [line]) key value := ⟨earlier,line,[],rfl,gives,by simp⟩

def Silent (lines : List Text) (key : Text) : Prop :=
  ∀ line ∈ lines, ∀ value, ¬ Gives line key value

theorem lastValue?_eq_none_iff {key : Text} {lines : List Text} :
    lastValue? key lines = none ↔ Silent lines key := by
  simp [lastValue?,Silent,List.findSome?_eq_none_iff,valueFor?_eq_none_iff]

theorem lastValue?_eq_some_iff {key value : Text} {lines : List Text} :
    lastValue? key lines = some value ↔ LastGives lines key value := by
  rw [lastValue?,List.findSome?_eq_some_iff]
  simp only [valueFor?_eq_some_iff,valueFor?_eq_none_iff]
  constructor
  · rintro ⟨later,line,earlier,parts,gives,silent⟩
    refine ⟨earlier.reverse,line,later.reverse,?_,gives,by simpa using silent⟩
    simpa using congrArg List.reverse parts
  · rintro ⟨earlier,line,later,rfl,gives,silent⟩
    exact ⟨later.reverse,line,earlier.reverse,by simp,gives,by simpa using silent⟩

def enter (t : Table Text) (line : Text) : Table Text :=
  match assignment? line with
  | some (key,value) => Table.put t key value
  | none => t

theorem table_eq (contents : Text) : table contents = (Text.lines contents).foldl enter [] := rfl

theorem get?_enter (t : Table Text) (line key : Text) :
    Table.get? (enter t line) key = (valueFor? key line).or (Table.get? t key) := by
  cases given : assignment? line with
  | none => simp [enter,valueFor?,given]
  | some pair =>
    simp only [enter,valueFor?,given,Option.bind_some,Table.get?_put]
    split <;> rfl

theorem get?_foldl_enter (t : Table Text) (lines : List Text) (key : Text) :
    Table.get? (lines.foldl enter t) key = (lastValue? key lines).or (Table.get? t key) := by
  induction lines generalizing t with
  | nil => rfl
  | cons line later ih => rw [List.foldl_cons,ih,get?_enter,lastValue?_cons,Option.or_assoc]

/-- The table holds, under each key, the last value that the lines give it. -/
theorem get?_table (contents key : Text) :
    Table.get? (table contents) key = lastValue? key (Text.lines contents) := by
  rw [table_eq,get?_foldl_enter]
  simp [Table.get?]

/-- What stands between the commas of a value, without white space around it and unless it is empty. -/
def Lists (value : Text) (entries : List Text) : Prop :=
  ∃ pieces, value = [','].intercalate pieces ∧ (∀ piece ∈ pieces, ',' ∉ piece) ∧
    entries = (pieces.map Text.trim).filter (· ≠ [])

theorem lists_iff {value : Text} {entries : List Text} :
    Lists value entries ↔
      entries = ((Text.splitOn ',' value).map Text.trim).filter (!·.isEmpty) := by
  have nonempty (pieces : List Text) :
      (pieces.map Text.trim).filter (· ≠ []) = (pieces.map Text.trim).filter (!·.isEmpty) := by
    congr 1
    funext piece
    cases piece <;> simp
  constructor
  · rintro ⟨pieces,rfl,single,rfl⟩
    rw [nonempty,Text.splitOn_eq]
    by_cases none : pieces = []
    · rw [none]
      rfl
    · rw [List.splitOn_intercalate ',' single none]
  · rintro rfl
    refine ⟨Text.splitOn ',' value,?_,Text.not_mem_of_mem_splitOn,(nonempty _).symm⟩
    rw [Text.splitOn_eq]
    exact (List.intercalate_splitOn ',').symm

/-- The path for an entry. What follows `~/` belongs to the home directory, all else stays as it is. -/
inductive Expands (home : Text) : Text → Text → Prop
  | tilde (rest : Text) : Expands home ('~' :: '/' :: rest) (Path.join home rest)
  | verbatim {entry : Text} (plain : ∀ rest, entry ≠ '~' :: '/' :: rest) : Expands home entry entry

theorem expands_iff {home entry path : Text} :
    Expands home entry path ↔ path = expandHome (some home) entry := by
  constructor
  · rintro (_ | plain)
    · rfl
    · unfold expandHome
      split
      · next same => exact absurd rfl (plain _)
      · rfl
  · rintro rfl
    unfold expandHome
    split
    · next same =>
      cases same
      exact .tilde _
    · next other => exact .verbatim fun rest same => other rest home same rfl

theorem forall₂_expands_iff {home : Text} {entries paths : List Text} :
    List.Forall₂ (Expands home) entries paths ↔ paths = entries.map (expandHome (some home)) := by
  induction entries generalizing paths with
  | nil => simp
  | cons entry rest ih => simp [List.forall₂_cons_left_iff,expands_iff,ih]

structure IsKey (name : Text) : Prop where
  tight : Text.trim name = name
  single : '=' ∉ name
  noComment : name.head? ≠ some '#'

/-- The line consists of the name of a key and a value, with any white space around each of them. -/
def Spells (line name value : Text) : Prop :=
  ∃ a b c d, Text.AllBlank a ∧ Text.AllBlank b ∧ Text.AllBlank c ∧ Text.AllBlank d ∧
    line = (a ++ (name ++ b)) ++ '=' :: (c ++ (value ++ d))

theorem Spells.gives {line name value : Text} (spells : Spells line name value) (isKey : IsKey name) :
    Gives line (Text.lower name) (Text.trim value) := by
  obtain ⟨a,b,c,d,blankA,blankB,blankC,blankD,rfl⟩ := spells
  have single {s : Text} (blank : Text.AllBlank s) : '=' ∉ s := fun member =>
    equals_shows (blank _ member)
  have start : (Text.trimStart (a ++ (name ++ b))).head? ≠ some '#' := by
    have tight : Text.trimStart name = name := by
      rw [← isKey.tight,Text.trim_eq,Text.trimStart_trimStart]
    rw [Text.trimStart_append blankA,Text.trimStart,List.dropWhile_append]
    rw [Text.trimStart] at tight
    rw [tight]
    split
    · rw [← Text.trimStart,Text.trimStart_blank blankB]
      simp
    · next nonempty =>
      obtain ⟨first,more,rfl⟩ := List.exists_cons_of_ne_nil (mt List.isEmpty_iff.mpr nonempty)
      exact isKey.noComment
  have first : '=' ∉ a ++ (name ++ b) := by simp [single blankA,isKey.single,single blankB]
  have gives := gives_of_parts first start (c ++ (value ++ d))
  rwa [Text.trim_append blankA name blankB,isKey.tight,Text.trim_append blankC value blankD] at gives

/-- Lines in another order and spelling: two lines next to each other that do not give the same key a
value change places, or a line is written with its key in another case and other white space. -/
inductive Alike : List Text → List Text → Prop
  | refl (lines : List Text) : Alike lines lines
  | swap (before after : List Text) {line other : Text}
      (apart : ∀ key value value', Gives line key value → ¬ Gives other key value') :
      Alike (before ++ line :: other :: after) (before ++ other :: line :: after)
  | respell (before after : List Text) {line other name name' value : Text} (isKey : IsKey name)
      (isKey' : IsKey name') (sameKey : Text.lower name = Text.lower name')
      (spells : Spells line name value) (spells' : Spells other name' value) :
      Alike (before ++ line :: after) (before ++ other :: after)
  | trans {lines lines' lines'' : List Text} (first : Alike lines lines')
      (more : Alike lines' lines'') : Alike lines lines''

theorem Alike.lastValue?_eq {lines lines' : List Text} (alike : Alike lines lines') (key : Text) :
    lastValue? key lines = lastValue? key lines' := by
  induction alike with
  | refl => rfl
  | trans _ _ first more => exact first.trans more
  | @swap before after line other apart =>
    -- At most one of the two lines gives the key a value, so it does not matter which one comes last.
    have swapped : (valueFor? key other).or (valueFor? key line) =
        (valueFor? key line).or (valueFor? key other) := by
      cases given : valueFor? key line with
      | none => simp
      | some value =>
        have gives := valueFor?_eq_some_iff.mp given
        rw [valueFor?_eq_none_iff.mpr fun value' => apart key value value' gives]
        rfl
    have same : lastValue? key (line :: other :: after) = lastValue? key (other :: line :: after) := by
      simp only [lastValue?_cons,Option.or_assoc,swapped]
    rw [lastValue?_append,lastValue?_append,same]
  | @respell before after line other name name' value isKey isKey' sameKey spells spells' =>
    have same : valueFor? key line = valueFor? key other := by
      rw [valueFor?,valueFor?,assignment?_eq_some_iff.mpr (spells.gives isKey),
        assignment?_eq_some_iff.mpr (spells'.gives isKey'),sameKey]
    rw [lastValue?_append,lastValue?_append,lastValue?_cons,lastValue?_cons,same]

/-- The settings that follow from the last line of each key. -/
structure Follows (home : Text) (lines : List Text) (settings : Settings) : Prop where
  format : ∀ value, LastGives lines "format".toList value →
    Format.ofName? value = some settings.format
  noFormat : Silent lines "format".toList → settings.format = .html
  language : ∀ value, LastGives lines "language".toList value → settings.language = some value
  noLanguage : Silent lines "language".toList → settings.language = none
  ruleFiles : ∀ value, LastGives lines "rules".toList value →
    ∃ entries, Lists value entries ∧ List.Forall₂ (Expands home) entries settings.ruleFiles
  noRuleFiles : Silent lines "rules".toList → settings.ruleFiles = []

theorem parse_eq (home : Option Text) (contents : Text) :
    parse home contents =
      { format := ((lastValue? "format".toList (Text.lines contents)).bind Format.ofName?).getD .html
        language := (lastValue? "language".toList (Text.lines contents)).filter (!·.isEmpty)
        ruleFiles :=
          ((lastValue? "rules".toList (Text.lines contents)).map (paths home)).getD [] } := by
  rw [parse,ofTable,get?_table,get?_table,get?_table]

theorem follows_parse {home contents : Text}
    (formats : ∀ line ∈ Text.lines contents, ∀ value, Gives line "format".toList value →
      ∃ format, Format.ofName? value = some format)
    (languages : ∀ line ∈ Text.lines contents, ∀ value, Gives line "language".toList value →
      value ≠ []) :
    Follows home (Text.lines contents) (parse (some home) contents) := by
  have member {key value : Text} (last : LastGives (Text.lines contents) key value) :
      ∃ line ∈ Text.lines contents, Gives line key value := by
    obtain ⟨earlier,line,later,parts,gives,_⟩ := last
    exact ⟨line,by simp [parts],gives⟩
  rw [parse_eq]
  constructor
  · intro value last
    obtain ⟨line,isLine,gives⟩ := member last
    obtain ⟨format,named⟩ := formats line isLine value gives
    rw [lastValue?_eq_some_iff.mpr last,Option.bind_some,named]
    rfl
  · intro silent
    rw [lastValue?_eq_none_iff.mpr silent]
    rfl
  · intro value last
    obtain ⟨line,isLine,gives⟩ := member last
    have nonempty := languages line isLine value gives
    rw [lastValue?_eq_some_iff.mpr last]
    simp [Option.filter,nonempty]
  · intro silent
    rw [lastValue?_eq_none_iff.mpr silent]
    rfl
  · intro value last
    rw [lastValue?_eq_some_iff.mpr last]
    exact ⟨_,lists_iff.mpr rfl,forall₂_expands_iff.mpr rfl⟩
  · intro silent
    rw [lastValue?_eq_none_iff.mpr silent]
    rfl

end Settings

namespace CommandLine

open Settings

variable {s : Surroundings Id} {home contents : Text}

structure Surroundings.Configured (s : Surroundings Id) (home contents : Text) : Prop where
  isHome : s.home = some home
  read : s.readFile (Path.join home ".hilite.conf".toList) = .ok contents

theorem settings_of_configured (configured : s.Configured home contents) :
    s.settings = Settings.parse (some home) contents := by
  have path : Settings.path? s.home = some (Path.join home ".hilite.conf".toList) := by
    rw [configured.isHome]
    rfl
  have entries : s.entries = Settings.table contents := by
    rw [Surroundings.entries,path]
    simp only [configured.read]
  rw [settings_eq,entries,configured.isHome,Settings.parse]

/-- Where every format that the settings file gives is one and no language is empty, the settings are
those that follow from the last line of each key. In another order and spelling, the lines of any
settings file come to the same settings. -/
theorem settings_by_last_lines (home : Text) :
    (∀ s contents, Surroundings.Configured s home contents →
      (∀ line ∈ Text.lines contents, ∀ value, Gives line "format".toList value →
        ∃ format, Format.ofName? value = some format) →
      (∀ line ∈ Text.lines contents, ∀ value, Gives line "language".toList value → value ≠ []) →
      Follows home (Text.lines contents) s.settings) ∧
    ∀ s s' contents contents', Surroundings.Configured s home contents →
      Surroundings.Configured s' home contents' →
      Alike (Text.lines contents) (Text.lines contents') → s.settings = s'.settings := by
  constructor
  · intro s contents configured formats languages
    rw [settings_of_configured configured]
    exact follows_parse formats languages
  · intro s s' contents contents' configured configured' alike
    rw [settings_of_configured configured,settings_of_configured configured',parse_eq,parse_eq]
    simp only [alike.lastValue?_eq]

/-- Surroundings with the home directory `h` and nothing but a settings file in it. -/
def Surroundings.keeping (contents : Text) : Surroundings Id :=
  surroundings (some ['h'])
    ⟨[([['h'],".hilite.conf".toList],(String.ofList contents).toUTF8)]⟩ ByteArray.empty

theorem Surroundings.configured_keeping (contents : Text) :
    (keeping contents).Configured ['h'] contents := ⟨rfl,decodeText_eq_ok_iff.mpr rfl⟩

/-- Three lines of a settings file, and the last of them written in another way. -/
def ansiLine : Text := "format".toList ++ '=' :: "ansi".toList
def plainLine : Text := "FORMAT ".toList ++ '=' :: " plain".toList
def rulesLine : Text := "rules".toList ++ '=' :: "a,~/b".toList
def spacedLine : Text := " Rules\t".toList ++ '=' :: "  a,~/b ".toList

theorem ansiLine_gives : Gives ansiLine "format".toList "ansi".toList := gives_ascii (by decide +kernel)

theorem plainLine_gives : Gives plainLine "format".toList "plain".toList :=
  gives_ascii (by decide +kernel)

theorem rulesLine_gives : Gives rulesLine "rules".toList "a,~/b".toList :=
  gives_ascii (by decide +kernel)

theorem alike_spacedLine :
    Alike [ansiLine,plainLine,rulesLine] [ansiLine,spacedLine,plainLine] := by
  have apart (key value value' : Text) (gives : Gives plainLine key value) :
      ¬ Gives rulesLine key value' := by
    rw [← (plainLine_gives.unique gives).1]
    exact rulesLine_gives.not_other (by decide) value'
  have isKey : IsKey "rules".toList := ⟨by decide +kernel,by decide,by decide⟩
  have isKey' : IsKey "Rules".toList := ⟨by decide +kernel,by decide,by decide⟩
  have sameKey : Text.lower "rules".toList = Text.lower "Rules".toList := by
    rw [Text.lower_ascii (by decide),Text.lower_ascii (by decide)]
    rfl
  have spells : Spells rulesLine "rules".toList "a,~/b".toList := ⟨[],[],[],[],by decide +kernel⟩
  have spells' : Spells spacedLine "Rules".toList "a,~/b".toList :=
    ⟨[' '],['\t'],[' ',' '],[' '],by decide +kernel⟩
  exact (Alike.swap [ansiLine] [] apart).trans
    (.respell [ansiLine] [plainLine] isKey isKey' sameKey spells spells')

def threeLines : Text := "format=ansi\nFORMAT = plain\nrules=a,~/b".toList
def shuffledLines : Text := "format=ansi\n Rules\t=  a,~/b \nFORMAT = plain".toList

theorem lines_threeLines : Text.lines threeLines = [ansiLine,plainLine,rulesLine] := by decide

theorem lines_shuffledLines : Text.lines shuffledLines = [ansiLine,spacedLine,plainLine] := by decide

/-- Of two formats the second one counts, whose key is in capitals. It still does where the line with
the rule files stands between the two and is written in another way. -/
theorem settings_by_last_lines_shuffled :
    (Surroundings.keeping threeLines).settings =
        { format := .plain, ruleFiles := [['a'],['h','/','b']] } ∧
      (Surroundings.keeping shuffledLines).settings = (Surroundings.keeping threeLines).settings := by
  obtain ⟨follows,alike⟩ := settings_by_last_lines ['h']
  have configured := Surroundings.configured_keeping threeLines
  constructor
  · have expected := follows _ _ configured
    simp only [lines_threeLines,List.forall_mem_cons,List.not_mem_nil,false_implies,implies_true,
      and_true] at expected
    obtain ⟨format,-,-,noLanguage,ruleFiles,-⟩ := expected
      ⟨fun value gives => ⟨_,(ansiLine_gives.unique gives).2 ▸ Format.ofName?_ansi⟩,
        fun value gives => ⟨_,(plainLine_gives.unique gives).2 ▸ Format.ofName?_plain⟩,
        fun value gives => absurd gives (rulesLine_gives.not_other (by decide) value)⟩
      ⟨fun value gives => absurd gives (ansiLine_gives.not_other (by decide) value),
        fun value gives => absurd gives (plainLine_gives.not_other (by decide) value),
        fun value gives => absurd gives (rulesLine_gives.not_other (by decide) value)⟩
    have isPlain := format _ ⟨[ansiLine],plainLine,[rulesLine],rfl,plainLine_gives,by
      simpa using rulesLine_gives.not_other (by decide)⟩
    have isUnnamed := noLanguage (by
      simpa [Silent] using ⟨ansiLine_gives.not_other (by decide),
        plainLine_gives.not_other (by decide),rulesLine_gives.not_other (by decide)⟩)
    obtain ⟨entries,lists,expands⟩ := ruleFiles _ (rulesLine_gives.last [ansiLine,plainLine])
    rw [lists_iff] at lists
    rw [lists,forall₂_expands_iff] at expands
    have isFiles := expands.trans (c := [['a'],['h','/','b']]) (by decide +kernel)
    rw [Format.ofName?_plain,Option.some.injEq] at isPlain
    generalize (Surroundings.keeping threeLines).settings = settings at isPlain isUnnamed isFiles
    obtain ⟨format,language,ruleFiles⟩ := settings
    cases isPlain
    cases isUnnamed
    cases isFiles
    rfl
  · refine (alike _ _ _ _ configured (Surroundings.configured_keeping shuffledLines) ?_).symm
    rw [lines_threeLines,lines_shuffledLines]
    exact alike_spacedLine

end CommandLine

end Highlighting
