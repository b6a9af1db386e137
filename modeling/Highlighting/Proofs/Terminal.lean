import Highlighting.Proofs.Totality

/-! A terminal that reads the output for terminals. It shows one character after the other in the
color that is selected, and obeys the commands that select a color or the default one. It is strict:
it stops at a command that it does not know, and at one that selects a color before the last one has
been reset. -/
namespace Highlighting

/-- The named color at a place in the palette of a terminal. -/
def NamedColor.ofCode? (code : Nat) : Option NamedColor :=
  (NamedColor.named.map (·.2)).find? (·.code == code)

theorem NamedColor.ofCode?_code (name : NamedColor) : ofCode? name.code = some name := by
  cases name <;> rfl

/-- What a terminal is reading: text, what follows the character that announces a command, or the
arguments of a command as far as they have been read. -/
inductive Terminal.Mode where
  | text
  | command
  | arguments (read : Text)
  deriving DecidableEq, Repr

/-- The characters stand with their colors, where none is the default one. -/
structure Terminal where
  shown : List (Char × Option Color) := []
  color : Option Color := none
  mode : Terminal.Mode := .text
  deriving DecidableEq, Repr

namespace Terminal

def number? (digits : Text) : Option Nat :=
  if digits ≠ [] ∧ digits.all Char.isDigit then some (Nat.ofDigitChars 10 digits 0) else none

def channel? (n : Nat) : Option (Fin 256) := if small : n < 256 then some ⟨n,small⟩ else none

def select (t : Terminal) (color : Color) : Option Terminal :=
  if t.color = none then some { t with color := some color } else none

/-- Obeys a command with these arguments: a place in the palette, the shares of three colors, or
the default color. -/
def obey (t : Terminal) (arguments : List Nat) : Option Terminal :=
  match arguments with
  | [38,5,code] => do t.select (.named (← NamedColor.ofCode? code))
  | [38,2,red,green,blue] => do
    t.select (.rgb (← channel? red) (← channel? green) (← channel? blue))
  | [39] => some { t with color := none }
  | _ => none

def read (t : Terminal) (c : Char) : Option Terminal :=
  match t.mode with
  | .text =>
    if c = '\x1b' then some { t with mode := .command }
    else some { t with shown := t.shown ++ [(c,t.color)] }
  | .command => if c = '[' then some { t with mode := .arguments [] } else none
  | .arguments before =>
    if c = 'm' then do
      obey { t with mode := .text } (← (Text.splitOn ';' before).mapM number?)
    else some { t with mode := .arguments (before ++ [c]) }

def readAll (t : Terminal) (output : Text) : Option Terminal := output.foldlM read t

theorem readAll_append (t : Terminal) (first second : Text) :
    t.readAll (first ++ second) = (t.readAll first).bind (readAll · second) := by
  simp only [readAll,List.foldlM_append]
  rfl

theorem readAll_text {t : Terminal} {text : Text} (mode : t.mode = .text)
    (noEscape : '\x1b' ∉ text) :
    t.readAll text = some { t with shown := t.shown ++ text.map (·,t.color) } := by
  induction text generalizing t with
  | nil => simp [readAll]
  | cons c text ih =>
    obtain ⟨first,later⟩ := not_or.mp (mt List.mem_cons.mpr noEscape)
    have step : t.read c = some { t with shown := t.shown ++ [(c,t.color)] } := by
      simp [read,mode,Ne.symm first]
    rw [readAll,List.foldlM_cons,step]
    have rest := @ih { t with shown := t.shown ++ [(c,t.color)] } mode later
    rw [readAll] at rest
    simp [rest]

theorem readAll_arguments {t : Terminal} {before arguments : Text}
    (mode : t.mode = .arguments before) (unended : 'm' ∉ arguments) :
    t.readAll arguments = some { t with mode := .arguments (before ++ arguments) } := by
  induction arguments generalizing t before with
  | nil => simp [readAll,← mode]
  | cons c arguments ih =>
    obtain ⟨first,later⟩ := not_or.mp (mt List.mem_cons.mpr unended)
    have step : t.read c = some { t with mode := .arguments (before ++ [c]) } := by
      simp [read,mode,Ne.symm first]
    rw [readAll,List.foldlM_cons,step]
    have rest := @ih { t with mode := .arguments (before ++ [c]) } (before ++ [c]) rfl later
    rw [readAll] at rest
    simp [rest]

/-- A command is obeyed as soon as its last character has been read. -/
theorem readAll_command {t : Terminal} {arguments : Text} {numbers : List Nat}
    (mode : t.mode = .text) (unended : 'm' ∉ arguments)
    (written : (Text.splitOn ';' arguments).mapM number? = some numbers) :
    t.readAll ("\x1b[".toList ++ arguments ++ "m".toList) = t.obey numbers := by
  have announced : t.readAll "\x1b[".toList = some { t with mode := .arguments [] } := by
    simp [readAll,read,mode]
  have collected := @readAll_arguments { t with mode := .arguments [] } [] arguments rfl unended
  have ended : readAll { t with mode := .arguments arguments } "m".toList = t.obey numbers := by
    simp [readAll,read,written,← mode]
  rw [readAll_append,readAll_append,announced,Option.bind_some,collected,Option.bind_some]
  exact ended

theorem number?_decimal (n : Nat) : number? (Digits.decimal n) = some n := by
  have digits : (Digits.decimal n).all Char.isDigit := by
    rw [List.all_eq_true]
    exact fun c member => Nat.isDigit_of_mem_toDigits (by decide) (by decide) member
  rw [number?,if_pos ⟨Nat.toDigits_ne_nil,digits⟩,Digits.decimal,Nat.ofDigitChars_ten_toDigits]

theorem channel?_val (n : Fin 256) : channel? n = some n := by simp [channel?]

def arguments : Color → List Nat
  | .named name => [38,5,name.code]
  | .rgb red green blue => [38,2,red,green,blue]

theorem obey_arguments {t : Terminal} (reset : t.color = none) (color : Color) :
    t.obey (arguments color) = some { t with color := some color } := by
  cases color with
  | named name => simp [arguments,obey,NamedColor.ofCode?_code,select,reset]
  | rgb red green blue => simp [arguments,obey,channel?_val,select,reset]

theorem not_mem_decimal {c : Char} (other : c.isDigit = false) (n : Nat) :
    c ∉ Digits.decimal n := by
  intro member
  rw [Nat.isDigit_of_mem_toDigits (by decide) (by decide) member] at other
  contradiction

def written : List Nat → Text
  | [] => []
  | [n] => Digits.decimal n
  | n :: m :: rest => Digits.decimal n ++ ';' :: written (m :: rest)

theorem splitOn_written {numbers : List Nat} (nonempty : numbers ≠ []) :
    (Text.splitOn ';' (written numbers)).mapM number? = some numbers := by
  have absent (n : Nat) : ';' ∉ Digits.decimal n := not_mem_decimal (by decide) n
  induction numbers using written.induct with
  | case1 => contradiction
  | case2 n => simp [written,Text.splitOn_of_not_mem (absent n),number?_decimal]
  | case3 n m rest ih =>
    rw [written,Text.splitOn_append (absent n),List.mapM_cons,number?_decimal,ih (by simp)]
    rfl

theorem not_mem_written (numbers : List Nat) : 'm' ∉ written numbers := by
  have absent (n : Nat) : 'm' ∉ Digits.decimal n := not_mem_decimal (by decide) n
  induction numbers using written.induct with
  | case1 => simp [written]
  | case2 n => exact absent n
  | case3 n m rest ih => simpa [written,absent n] using ih

theorem written_arguments (color : Color) :
    written (arguments color) = "38;".toList ++ color.selection := by
  have first : Digits.decimal 38 = ['3','8'] := by decide
  have indexed : Digits.decimal 5 = ['5'] := by decide
  have direct : Digits.decimal 2 = ['2'] := by decide
  unfold Color.selection
  cases color <;> simp [arguments,written,first,indexed,direct]

theorem readAll_select {t : Terminal} (mode : t.mode = .text) (reset : t.color = none)
    (color : Color) :
    t.readAll ("\x1b[38;".toList ++ color.selection ++ "m".toList) =
      some { t with color := some color } := by
  have command : "\x1b[38;".toList ++ color.selection ++ "m".toList =
      "\x1b[".toList ++ written (arguments color) ++ "m".toList := by
    simp [written_arguments]
  have numbers : (Text.splitOn ';' (written (arguments color))).mapM number? =
      some (arguments color) := by
    apply splitOn_written
    cases color <;> simp [arguments]
  rw [command,readAll_command mode (not_mem_written _) numbers,obey_arguments reset]

theorem readAll_reset {t : Terminal} (mode : t.mode = .text) :
    t.readAll "\x1b[39m".toList = some { t with color := none } := by
  have command : "\x1b[39m".toList = "\x1b[".toList ++ ['3','9'] ++ "m".toList := by simp
  have numbers : (Text.splitOn ';' ['3','9']).mapM number? = some [39] := by decide
  rw [command,readAll_command mode (by decide) numbers]
  rfl

end Terminal

/-- The characters of a fragment with the color that they are to have. -/
def Fragment.cells (f : Fragment) : List (Char × Option Color) :=
  f.text.map (·,f.color?.bind Color.parse?)

namespace Terminal

/-- Between fragments, text is read and the default color selected; each fragment shows its text in
its color, if that is known. -/
theorem readAll_ansi {t : Terminal} (mode : t.mode = .text) (reset : t.color = none)
    {f : Fragment} (noEscape : '\x1b' ∉ f.text) :
    t.readAll f.ansi = some { t with shown := t.shown ++ f.cells } := by
  cases f with
  | plain text =>
    have noEscape : '\x1b' ∉ text := noEscape
    rw [Fragment.ansi_plain,readAll_text mode noEscape,reset]
    rfl
  | styled text color =>
    have noEscape : '\x1b' ∉ text := noEscape
    cases known : Color.parse? color with
    | none =>
      rw [Fragment.ansi_unknown known,readAll_text mode noEscape,reset]
      simp [Fragment.cells,Fragment.text,Fragment.color?,known]
    | some c =>
      by_cases empty : text = []
      · subst empty
        simp [Fragment.ansi_empty,readAll,Fragment.cells,Fragment.text]
      · have colored := @readAll_text { t with color := some c } text mode noEscape
        rw [Fragment.ansi_known empty known,readAll_append,readAll_append,
          readAll_select mode reset,Option.bind_some,colored,Option.bind_some]
        rw [readAll_reset (by exact mode)]
        simp [Fragment.cells,Fragment.text,Fragment.color?,known,reset]

/-- Fragment after fragment is shown, and the default color is selected again behind each. -/
theorem readAll_render {t : Terminal} (mode : t.mode = .text) (reset : t.color = none)
    {fragments : List Fragment} (noEscape : ∀ f ∈ fragments, '\x1b' ∉ f.text) :
    t.readAll (render .ansi fragments) =
      some { t with shown := t.shown ++ fragments.flatMap Fragment.cells } := by
  induction fragments generalizing t with
  | nil => simp [render,readAll]
  | cons f rest ih =>
    obtain ⟨first,later⟩ := List.forall_mem_cons.mp noEscape
    have continued := @ih { t with shown := t.shown ++ f.cells } mode reset later
    have parts : render .ansi (f :: rest) = f.ansi ++ render .ansi rest := by
      simp [render,Fragment.render]
    rw [parts,readAll_append,readAll_ansi mode reset first,Option.bind_some,continued]
    simp

end Terminal

theorem Fragment.cells_text (fragments : List Fragment) :
    (fragments.flatMap cells).map (·.1) = concat fragments := by
  induction fragments with
  | nil => rfl
  | cons f rest ih => simp [cells,ih,Function.comp_def]

/-- A strict terminal reads the whole output for a text without escape characters: it shows exactly
the text, each character in the color of its fragment if that is a known one and in the default
color otherwise, never meets a color inside another one, and has the default color selected at the
end. For fragments without text there is no output. -/
theorem ansi_shown {rules : List Rule} {text : Text}
    (wellFormed : ∀ rule ∈ rules, rule.pattern.search.WellFormed) (noEscape : '\x1b' ∉ text) :
    ∃ fragments output, Rule.segment rules text = .ok fragments ∧
      highlight .ansi rules text = .ok output ∧
      Terminal.readAll {} output =
        some { shown := fragments.flatMap Fragment.cells, color := none, mode := .text } ∧
      (fragments.flatMap Fragment.cells).map (·.1) = text ∧
      ∀ f ∈ fragments, f.text = [] → f.ansi = [] := by
  obtain ⟨fragments,returned⟩ := Rule.segment_ok_of_wellFormed wellFormed text
  have content := concat_of_segment returned
  have written : highlight .ansi rules text = .ok (render .ansi fragments) := by
    rw [highlight,returned]
    rfl
  refine ⟨fragments,_,returned,written,?_,?_,?_⟩
  · refine Terminal.readAll_render rfl rfl fun f member inside => noEscape ?_
    rw [← content]
    exact Fragment.mem_concat_of_mem member inside
  · rw [Fragment.cells_text,content]
  · intro f _ empty
    cases f with
    | plain text => exact empty
    | styled text color =>
      have empty : text = [] := empty
      rw [empty,Fragment.ansi_empty]

/-- One of the claimed fragments has text, and the others are empty. -/
theorem ansi_shown_orange :
    ∃ rule, Rule.compile? ['x'] ['x','*'] ['#','f','8','0'] = some rule ∧
      (∀ r ∈ [rule], r.pattern.search.WellFormed) ∧ '\x1b' ∉ ['a','x'] ∧
      ∃ output, highlight .ansi [rule] ['a','x'] = .ok output ∧
        Terminal.readAll {} output =
          some { shown := [('a',none),('x',some (.rgb 255 136 0))], color := none, mode := .text } := by
  have accepts : ((Rule.compile? ['x'] ['x','*'] ['#','f','8','0']).map fun rule =>
      (Rule.segment [rule] ['a','x']).map (·.flatMap Fragment.cells)) =
        some (.ok [('a',none),('x',some (.rgb 255 136 0))]) := by
    decide
  have free : Pattern.keepsOutBehind ['x','*'] = false := by decide
  obtain ⟨rule,compiled,colored⟩ := Option.map_eq_some_iff.mp accepts
  have wellFormed : ∀ r ∈ [rule], r.pattern.search.WellFormed := by
    simpa using Rule.wellFormed_of_compile? compiled free
  have noEscape : '\x1b' ∉ ['a','x'] := by decide
  obtain ⟨fragments,output,returned,written,shown,_⟩ := ansi_shown wellFormed noEscape
  rw [returned] at colored
  have cells : fragments.flatMap Fragment.cells = _ := Except.ok.inj colored
  rw [cells] at shown
  exact ⟨rule,compiled,wellFormed,noEscape,output,written,shown⟩

end Highlighting
