import Highlighting.Proofs.AustralRules
import Highlighting.Proofs.Denotation

/-! The two rules of Austral that match a word after blanks. The pattern of such a rule asks for the
start of the text or a blank and then for more blanks. It is specified differently, by a repetition
that takes the start of the text as often as it takes a blank. Both denote one property of parts of
a text, which a given place of the text has at most once. -/
namespace Highlighting.Austral

open Text Pattern Pattern.Regular

/-- The pattern of the specification for words after blanks. -/
def specifiedWords (words : String) : Text :=
  "( |\\n|^)+(".toList ++ words.toList ++ ")".toList

/-- One copy of what the specified pattern repeats: a blank, or the start of the text. -/
def blankOrStart : Regular :=
  .group 1 (.alt (.one (.chars [' '])) (.alt (.one (.chars ['\n'])) (.look .textStart)))

def specifiedExpression (words : List Text) : Regular :=
  .seq (.many blankOrStart 1 none true) (.group 2 (oneOf words))

def specifiedKeyword : Pattern :=
  ⟨specifiedWords "generic|let|if|end if|then|and|not|instance",
    .regular (specifiedExpression keywords),false⟩

def specifiedDeclaration : Pattern :=
  ⟨specifiedWords "typeclass|method|function|body|module|end|union|record|import|is|has",
    .regular (specifiedExpression declarations),false⟩

theorem compile?_specifiedKeyword [Libraries] :
    compile? (specifiedWords "generic|let|if|end if|then|and|not|instance") =
      some specifiedKeyword :=
  compile?_of_default (by decide +kernel) (by decide +kernel)

theorem compile?_specifiedDeclaration [Libraries] :
    compile? (specifiedWords
      "typeclass|method|function|body|module|end|union|record|import|is|has") =
        some specifiedDeclaration :=
  compile?_of_default (by decide +kernel) (by decide +kernel)

variable {words : List Text} {c d : Cursor}

theorem matches_spelled (word : Text) : (spelled word).Matches c d ↔ c.Reads word d := by
  induction word generalizing c with
  | nil => simp [spelled,matches_empty]
  | cons ch word ih =>
    cases word with
    | nil => simp [spelled,matches_one,CharSet.contains]
    | cons ch' word =>
      have split := @Cursor.reads_append c d [ch] (ch' :: word)
      simp only [List.singleton_append] at split
      simp [spelled,matches_seq,matches_one,CharSet.contains,ih,split]

theorem matches_oneOf (words : List Text) :
    (oneOf words).Matches c d ↔ ∃ word ∈ words, c.Reads word d := by
  induction words with
  | nil => simp [oneOf,matches_one,CharSet.contains,CharSet.empty]
  | cons word words ih =>
    cases words with
    | nil => simp [oneOf,matches_spelled]
    | cons word' words => simp [oneOf,matches_alt,matches_spelled,ih]

/-- Blanks and then a word; there is no blank only at the start of the text. -/
def WordPart (words : List Text) : Text.Property := fun before inside _ =>
  ∃ blanks, ∃ word ∈ words, inside = blanks ++ word ∧ (∀ c ∈ blanks, isBlank c) ∧
    (blanks = [] → before = [])

/-- An expression for blanks, of which there are none only at the start of the text, makes one for
words if it is followed by them. -/
theorem wordPart_denotes {blanks : Regular}
    (denotes : ∀ c d, blanks.Matches c d ↔
      ∃ w, (∀ ch ∈ w, isBlank ch) ∧ (w = [] → c.before = []) ∧ c.Reads w d) :
    (Regular.seq blanks (.group 2 (oneOf words))).Denotes (WordPart words) := by
  intro c d
  simp only [matches_seq,matches_group,matches_oneOf,denotes]
  constructor
  · rintro ⟨m,⟨w,areBlank,atStart,reads⟩,word,member,reads'⟩
    exact ⟨w ++ word,Cursor.reads_append.mpr ⟨m,reads,reads'⟩,w,word,member,rfl,areBlank,
      fun none => by simp [atStart none]⟩
  · rintro ⟨_,reads,w,word,member,rfl,areBlank,atStart⟩
    obtain ⟨m,reads,reads'⟩ := Cursor.reads_append.mp reads
    exact ⟨m,⟨w,areBlank,fun none => by simpa using atStart none,reads⟩,word,member,reads'⟩

theorem written_denotes (words : List Text) : (wordsExpression words).Denotes (WordPart words) := by
  have blanks (c d : Cursor) : Matches (.seq (.group 1 (.alt (.look .textStart) (.one blankSet)))
      (.many (.one blankSet) 0 none true)) c d ↔
        ∃ w, (∀ ch ∈ w, isBlank ch) ∧ (w = [] → c.before = []) ∧ c.Reads w d := by
    simp only [matches_seq,matches_group,matches_alt,matches_look,matches_one,matches_star_one,
      blankSet_contains]
    constructor
    · rintro ⟨m,⟨atStart,rfl⟩ | ⟨ch,isBlank,first⟩,w,areBlank,reads⟩
      · exact ⟨w,areBlank,fun _ => by simpa [Look.holds] using atStart,reads⟩
      · exact ⟨ch :: w,by simpa using ⟨isBlank,areBlank⟩,by simp,
          Cursor.reads_cons.mpr ⟨m,first,reads⟩⟩
    · rintro ⟨_ | ⟨ch,w⟩,areBlank,atStart,reads⟩
      · exact ⟨c,.inl ⟨by simp [Look.holds,atStart],rfl⟩,[],by simp,reads⟩
      · obtain ⟨m,first,reads⟩ := Cursor.reads_cons.mp reads
        exact ⟨m,.inr ⟨ch,areBlank ch (by simp),first⟩,w,
          fun x member => areBlank x (by simp [member]),reads⟩
  intro c d
  rw [← wordPart_denotes blanks,wordsExpression]
  simp only [matches_seq]
  constructor
  · rintro ⟨m,first,m',second,third⟩
    exact ⟨m',⟨m,first,second⟩,third⟩
  · rintro ⟨m',⟨m,first,second⟩,third⟩
    exact ⟨m,first,m',second,third⟩

theorem matches_blankOrStart :
    blankOrStart.Matches c d ↔ (∃ ch, isBlank ch ∧ c.Reads [ch] d) ∨ c.before = [] ∧ d = c := by
  simp [blankOrStart,matches_group,matches_alt,matches_one,matches_look,CharSet.contains,isBlank,
    Look.holds,or_and_right,exists_or,or_assoc]

/-- Copies at the start of the text read nothing, all others a blank. -/
theorem matches_blanksOrStart :
    Matches (.many blankOrStart 0 none true) c d ↔
      ∃ w, (∀ ch ∈ w, isBlank ch) ∧ c.Reads w d := by
  constructor
  · refine Matches.star_induction
      (motive := fun c d => ∃ w, (∀ ch ∈ w, isBlank ch) ∧ c.Reads w d)
      (fun c => ⟨[],by simp,by simp⟩) ?_
    rintro c m d first ⟨w,areBlank,reads⟩
    rcases matches_blankOrStart.mp first with ⟨ch,isBlank,step⟩ | ⟨_,rfl⟩
    · exact ⟨ch :: w,by simpa using ⟨isBlank,areBlank⟩,Cursor.reads_cons.mpr ⟨_,step,reads⟩⟩
    · exact ⟨w,areBlank,reads⟩
  · rintro ⟨w,areBlank,reads⟩
    induction w generalizing c with
    | nil => rw [Cursor.reads_nil.mp reads]; exact .manyDone
    | cons ch w ih =>
      obtain ⟨m,step,rest⟩ := Cursor.reads_cons.mp reads
      have copy := matches_blankOrStart.mpr (.inl ⟨ch,areBlank ch (by simp),step⟩)
      exact matches_star.mpr (.inr ⟨m,copy,ih (fun x member => areBlank x (by simp [member])) rest⟩)

theorem specified_denotes (words : List Text) :
    (specifiedExpression words).Denotes (WordPart words) := by
  refine wordPart_denotes fun c d => ?_
  simp only [matches_plus,matches_blanksOrStart,matches_blankOrStart]
  constructor
  · rintro ⟨m,⟨ch,isBlank,step⟩ | ⟨atStart,rfl⟩,w,areBlank,reads⟩
    · exact ⟨ch :: w,by simpa using ⟨isBlank,areBlank⟩,by simp,
        Cursor.reads_cons.mpr ⟨m,step,reads⟩⟩
    · exact ⟨w,areBlank,fun _ => atStart,reads⟩
  · rintro ⟨_ | ⟨ch,w⟩,areBlank,atStart,reads⟩
    · exact ⟨c,.inr ⟨atStart rfl,rfl⟩,[],by simp,reads⟩
    · obtain ⟨m,step,reads⟩ := Cursor.reads_cons.mp reads
      exact ⟨m,.inl ⟨ch,areBlank ch (by simp),step⟩,w,
        fun x member => areBlank x (by simp [member]),reads⟩

/-- Words that begin and end with other characters than blanks, none at the beginning of another. -/
structure Separate (words : List Text) : Prop where
  first : ∀ word ∈ words, word.head?.any (!isBlank ·)
  last : ∀ word ∈ words, word.getLast?.any (!isBlank ·)
  apart : ∀ word ∈ words, ∀ word' ∈ words, word <+: word' → word = word'

theorem keywords_separate : Separate keywords := by
  constructor <;> decide

theorem declarations_separate : Separate declarations := by
  constructor <;> decide

theorem wordPart_unique (separate : Separate words) : (WordPart words).Unique := by
  rintro before _ after _ after' ⟨blanks,word,member,rfl,areBlank,_⟩
    ⟨blanks',word',member',rfl,areBlank',_⟩ same
  have sameBlanks : blanks = blanks' := by
    have first := separate.first word member
    have first' := separate.first word' member'
    cases word with
    | nil => simp at first
    | cons c word =>
      cases word' with
      | nil => simp at first'
      | cons c' word' =>
        exact (@eq_of_first (!isBlank ·) blanks blanks' (word ++ after) (word' ++ after') c c'
          (by simpa using areBlank) (by simpa using areBlank') (by simpa using first)
          (by simpa using first') (by simpa using same)).1
  subst sameBlanks
  simp only [List.append_assoc,List.append_cancel_left_eq] at same
  rcases List.prefix_or_prefix_of_prefix ⟨after,rfl⟩ ⟨after',same.symm⟩ with isPrefix | isPrefix
  · rw [separate.apart word member word' member' isPrefix]
  · rw [separate.apart word' member' word member isPrefix]

/-- A match of a rule for words: the longest run of blanks before a word, and the word. Without a
blank it stands at the start of the text. -/
def IsWordMatch (words : List Text) (text : Text) (m : Span) : Prop :=
  ∃ before blanks word after : Text, text = before ++ (blanks ++ (word ++ after)) ∧ word ∈ words ∧
    (∀ c ∈ blanks, isBlank c) ∧ (∀ c, before.getLast? = some c → isBlank c = false) ∧
    (blanks = [] → before = []) ∧ m = ⟨before.bytes,before.bytes + (blanks ++ word).bytes⟩

variable {pattern : Pattern} {text : Text} {offset : Nat} {m : Span}
  (separate : Separate words)
  (answers : ∀ offset, Scan.Visits pattern.search text offset →
    pattern.search.AnswersFirst text (Occurs (WordPart words) text) offset)

include separate answers

/-- The scan never goes on behind a blank. -/
theorem visits_behind_word (visits : Scan.Visits pattern.search text offset) (before after : Text)
    (cut : text = before ++ after) (size : before.bytes = offset) (c : Char)
    (last : before.getLast? = some c) : isBlank c = false := by
  cases visits with
  | start =>
    rw [(bytes_eq_zero_iff before).mp size] at last
    contradiction
  | @next offset m _ visits found further inside =>
    have first := answers offset visits
    rw [Search.AnswersFirst,found] at first
    obtain ⟨done,_,rest,same,⟨blanks,word,member,rfl,_⟩,rfl⟩ := first.1
    have ending := separate.last word member
    cases isLast : word.getLast? with
    | none => simp [isLast] at ending
    | some c' =>
      have nonempty : 0 < word.bytes := by
        by_contra zero
        rw [(bytes_eq_zero_iff word).mp (by omega)] at isLast
        contradiction
      obtain ⟨_,fits⟩ := pattern.search_sound text offset _ (visits.boundary pattern.search_sound) found
      obtain ⟨_,equal,_,_,_,atStop,_⟩ := Scan.resume?_of_fits fits
      rw [further] at equal
      cases equal
      have stop := atStop (by simp only [bytes_append]; omega)
      obtain ⟨rfl,_⟩ := @cut_unique before after (done ++ (blanks ++ word)) rest
        (by rw [← cut,same]; simp) (by rw [size,stop]; simp)
      simp only [List.getLast?_append,isLast,Option.some_or,Option.some.injEq] at last
      subst last
      simpa [isLast] using ending

/-- A match takes all blanks before its word: the search would have answered an earlier start. -/
theorem isWordMatch_of_found (visits : Scan.Visits pattern.search text offset)
    (found : pattern.search text offset = .ok (some m)) : IsWordMatch words text m := by
  have first := answers offset visits
  rw [Search.AnswersFirst,found] at first
  obtain ⟨⟨before,_,after,same,⟨blanks,word,member,rfl,areBlank,atStart⟩,rfl⟩,notBefore,least⟩ := first
  refine ⟨before,blanks,word,after,by simpa using same,member,areBlank,fun c last => ?_,atStart,rfl⟩
  by_contra blank
  rw [Bool.not_eq_false] at blank
  obtain ⟨earlier,rfl⟩ := List.getLast?_eq_some_iff.mp last
  have reached : offset ≤ Text.bytes earlier := by
    obtain ⟨done,rest,cut,rfl⟩ := visits.boundary pattern.search_sound
    obtain ⟨between,equal,_⟩ := exists_between (cut.symm.trans same) notBefore
    rcases between.eq_nil_or_concat with rfl | ⟨more,x,rfl⟩
    · have isLast : done.getLast? = some c := by
        rw [← last,equal,List.append_nil]
      rw [visits_behind_word separate answers visits done rest cut rfl c isLast] at blank
      contradiction
    · rw [List.concat_eq_append,← List.append_assoc] at equal
      obtain ⟨rfl,_⟩ := List.append_inj' equal rfl
      simp
  have size := c.utf8Size_pos
  have le := least ⟨Text.bytes earlier,Text.bytes (earlier ++ [c]) + (blanks ++ word).bytes⟩
    ⟨earlier,c :: (blanks ++ word),after,by simpa using same,
      ⟨c :: blanks,word,member,rfl,by simpa using ⟨blank,areBlank⟩,by simp⟩,by simp; omega⟩ reached
  simp only [bytes_append,bytes_cons,bytes_nil] at le
  omega

omit separate answers

/-- Both patterns for words find the same matches, each a word with all blanks before it. -/
theorem words_findAll (source source' : Text) (separate : Separate words)
    (wellFormed : (Pattern.search ⟨source,.regular (wordsExpression words),false⟩).WellFormed)
    (text : Text) :
    ∃ spans, Pattern.findAll ⟨source,.regular (wordsExpression words),false⟩ text = .ok spans ∧
      Pattern.findAll ⟨source',.regular (specifiedExpression words),false⟩ text = .ok spans ∧
      ∀ m ∈ spans, IsWordMatch words text m := by
  set written : Pattern := ⟨source,.regular (wordsExpression words),false⟩
  set specified : Pattern := ⟨source',.regular (specifiedExpression words),false⟩
  have denotes : written.Denotes (WordPart words) := written_denotes words
  have denotes' : specified.Denotes (WordPart words) := specified_denotes words
  obtain ⟨spans,found,_⟩ := Scan.findAll_laid wellFormed text
  have same : written.search = specified.search :=
    funext fun text => funext fun offset =>
      search_eq_of_denotes denotes denotes' (wordPart_unique separate) rfl rfl
  refine ⟨spans,found,?_,fun m member => ?_⟩
  · rw [Pattern.findAll,← same]
    exact found
  · have run := (Scan.findAll_eq_ok_iff written.search_sound text spans).mp found
    obtain ⟨offset,visits,answer⟩ := run.exists_visit (fun _ => .start) m member
    exact isWordMatch_of_found separate
      (fun offset visits => answersFirst_of_denotes denotes (visits.boundary written.search_sound)
        rfl) visits answer

/-- The rules for keywords and for declarations match what their specified patterns match. -/
theorem wordRules_findAll [Libraries] (palette : Palette) (text : Text) :
    (∃ rule specified spans, ruleNamed? palette "keyword".toList = some rule ∧
      compile? (specifiedWords "generic|let|if|end if|then|and|not|instance") = some specified ∧
      rule.pattern.findAll text = .ok spans ∧ specified.findAll text = .ok spans ∧
      ∀ m ∈ spans, IsWordMatch keywords text m) ∧
    ∃ rule specified spans, ruleNamed? palette "declaration".toList = some rule ∧
      compile? (specifiedWords
        "typeclass|method|function|body|module|end|union|record|import|is|has") = some specified ∧
      rule.pattern.findAll text = .ok spans ∧ specified.findAll text = .ok spans ∧
      ∀ m ∈ spans, IsWordMatch declarations text m := by
  constructor
  · have wellFormed := search_wellFormed compile?_keyword (by decide +kernel)
    obtain ⟨spans,found⟩ := words_findAll _ specifiedKeyword.source keywords_separate wellFormed text
    exact ⟨⟨"keyword".toList,keywordPattern,palette.keyword⟩,specifiedKeyword,spans,
      by rw [ruleNamed?_eq]; rfl,compile?_specifiedKeyword,found⟩
  · have wellFormed := search_wellFormed compile?_declaration (by decide +kernel)
    obtain ⟨spans,found⟩ :=
      words_findAll _ specifiedDeclaration.source declarations_separate wellFormed text
    exact ⟨⟨"declaration".toList,declarationPattern,palette.declaration⟩,specifiedDeclaration,spans,
      by rw [ruleNamed?_eq]; rfl,compile?_specifiedDeclaration,found⟩

end Highlighting.Austral
