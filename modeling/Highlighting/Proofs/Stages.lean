import Mathlib.Control.Monad.Basic
import Highlighting.Proofs.Choice

/-! The stages of a run: the arguments, the rule files, the input, the language. A run that fails at a
stage prints nothing but the problem, and no later stage is met. One that gets to a language answers
as its highlighting does, so it has no answer where a rule of that language cannot divide the text. -/
namespace Highlighting.CommandLine

open Registry

variable {s : Surroundings Id} {arguments : List Text} {asked : List Request}
  {known : List Language} {text : Text}

def Works (asked : List Request) : Prop := .help ∉ asked ∧ .version ∉ asked

section

variable [Libraries]

/-- The run gets as far as to look for a language. -/
structure Arrives (s : Surroundings Id) (arguments : List Text) (asked : List Request)
    (known : List Language) (text : Text) : Prop where
  accepts : Accepts arguments asked
  works : Works asked
  knows : s.Knows asked known
  noList : .list ∉ asked
  read : s.text (Options.ofRequests asked) = .ok text

/-- The first stage that fails, and why. -/
inductive Fails (s : Surroundings Id) (arguments : List Text) : Problem → Prop
  | arguments {before rest : List Text} {asked : List Request} {problem : Problem}
      (parts : arguments = before ++ rest) (accepts : Accepts before asked)
      (fault : Fault asked rest problem) : Fails s arguments problem
  | rules {asked : List Request} {before after : List Text} {path : Text}
      {languages : List Language} {problem : Problem} (accepts : Accepts arguments asked)
      (works : Works asked) (paths : s.paths asked = before ++ path :: after)
      (described : List.Forall₂ s.Describes before languages)
      (refused : s.Refuses path problem) : Fails s arguments problem
  | input {asked : List Request} {known : List Language} {cause : FileError}
      (accepts : Accepts arguments asked) (works : Works asked) (knows : s.Knows asked known)
      (noList : .list ∉ asked) (unread : s.text (Options.ofRequests asked) = .error cause) :
      Fails s arguments (.unreadable cause)
  | language {asked : List Request} {known : List Language} {text name : Text}
      (arrives : Arrives s arguments asked known text) (wanted : s.Wants asked known name)
      (unknown : ∀ l ∈ known, l.key ≠ Text.lower name) : Fails s arguments (.unknownLanguage name)

theorem run_eq (s : Surroundings Id) (arguments : List Text) :
    run s arguments =
      match Options.parse arguments with
      | .error problem => .ok (.failure problem)
      | .ok options =>
        if options.help then .ok (.success usage)
        else if options.version then
          .ok (.success ("hilite ".toList ++ versionNumber.toList ++ ['\n']))
        else
          match s.loadAll .standard (s.settings.ruleFiles ++ options.ruleFiles) with
          | .error problem => .ok (.failure problem)
          | .ok registry =>
            if options.list then .ok (.success (listing registry))
            else
              match s.text options with
              | .error cause => .ok (.failure (.unreadable cause))
              | .ok text => highlightReport registry options s.settings text := rfl

theorem run_of_works (accepts : Accepts arguments asked) (works : Works asked) :
    run s arguments =
      match s.loadAll .standard (s.paths asked) with
      | .error problem => .ok (.failure problem)
      | .ok registry =>
        if .list ∈ asked then .ok (.success (listing registry))
        else
          match s.text (Options.ofRequests asked) with
          | .error cause => .ok (.failure (.unreadable cause))
          | .ok text => highlightReport registry (Options.ofRequests asked) s.settings text := by
  obtain ⟨noHelp,noVersion⟩ := works
  rw [run_eq,Options.parse_of_accepts accepts]
  simp [Options.ofRequests,noHelp,noVersion,Surroundings.paths]

/-- Help and the version are printed whatever there is to read. -/
theorem run_of_not_works (accepts : Accepts arguments asked) (informs : ¬ Works asked) :
    ∃ output, ∀ s : Surroundings Id, run s arguments = .ok (.success output) := by
  by_cases help : .help ∈ asked
  · refine ⟨usage,fun s => ?_⟩
    rw [run_eq,Options.parse_of_accepts accepts]
    simp [Options.ofRequests,help]
  · have version : .version ∈ asked := by_contra fun absent => informs ⟨help,absent⟩
    refine ⟨"hilite ".toList ++ versionNumber.toList ++ ['\n'],fun s => ?_⟩
    rw [run_eq,Options.parse_of_accepts accepts]
    simp [Options.ofRequests,help,version]

theorem loadAll_of_knows (knows : s.Knows asked known) :
    s.loadAll .standard (s.paths asked) = .ok (ofList known) := by
  obtain ⟨austral,languages,only,described,rfl⟩ := knows
  rw [← List.append_nil (s.paths asked),loadAll_append described,standard_eq_ofList only]
  rfl

theorem run_of_list (accepts : Accepts arguments asked) (works : Works asked)
    (knows : s.Knows asked known) (list : .list ∈ asked) :
    run s arguments = .ok (.success (listing (ofList known))) := by
  rw [run_of_works accepts works,loadAll_of_knows knows]
  simp only [list,if_true]

theorem run_of_arrives (arrives : Arrives s arguments asked known text) :
    run s arguments =
      highlightReport (ofList known) (Options.ofRequests asked) s.settings text := by
  rw [run_of_works arrives.accepts arrives.works,loadAll_of_knows arrives.knows]
  simp only [arrives.noList,if_false,arrives.read]

theorem run_of_chooses (arrives : Arrives s arguments asked known text) {l : Language}
    (chosen : s.Chooses asked known l) :
    run s arguments = (l.highlight (s.format asked) text).map .success := by
  rw [run_of_arrives arrives,highlightReport,selectLanguage_of_chooses chosen,format_eq]

theorem run_of_fails {problem : Problem} (fails : Fails s arguments problem) :
    run s arguments = .ok (.failure problem) := by
  cases fails with
  | arguments parts accepts fault => rw [run_eq,parts,Options.parse_of_fault accepts fault]
  | rules accepts works paths described refused =>
    rw [run_of_works accepts works,paths,loadAll_append described,loadAll_refused refused]
  | input accepts works knows noList unread =>
    rw [run_of_works accepts works,loadAll_of_knows knows]
    simp only [noList,if_false,unread]
  | language arrives wanted unknown =>
    rw [run_of_arrives arrives,highlightReport,selectLanguage_of_unknown wanted unknown]

/-- Every run fails at some stage, prints without highlighting, or highlights. -/
theorem run_cases (s : Surroundings Id) (arguments : List Text) :
    (∃ problem, Fails s arguments problem) ∨
    (∃ output, run s arguments = .ok (.success output)) ∨
    ∃ asked known text l, Arrives s arguments asked known text ∧ s.Chooses asked known l := by
  rcases Options.accepts_or_fault arguments with
    ⟨asked,accepts⟩ | ⟨before,asked,rest,problem,parts,accepts,fault⟩
  case inr => exact .inl ⟨problem,.arguments parts accepts fault⟩
  by_cases works : Works asked
  case neg =>
    obtain ⟨output,printed⟩ := run_of_not_works accepts works
    exact .inr (.inl ⟨output,printed s⟩)
  rcases describe_or_refuses s (s.paths asked) with
    ⟨languages,described⟩ | ⟨before,path,after,languages,problem,paths,described,refused⟩
  case inr => exact .inl ⟨problem,.rules accepts works paths described refused⟩
  obtain ⟨austral,only,_⟩ := History.standard
  have knows : s.Knows asked (austral :: languages) := ⟨austral,languages,only,described,rfl⟩
  by_cases list : .list ∈ asked
  case pos => exact .inr (.inl ⟨_,run_of_list accepts works knows list⟩)
  cases read : (s.text (Options.ofRequests asked) : Except FileError Text) with
  | error cause => exact .inl ⟨_,.input accepts works knows list read⟩
  | ok text =>
    have arrives : Arrives s arguments asked (austral :: languages) text :=
      ⟨accepts,works,knows,list,read⟩
    rcases chooses_or_unknown s asked (austral :: languages) with
      ⟨l,chosen⟩ | ⟨name,wanted,unknown⟩
    · exact .inr (.inr ⟨asked,_,text,l,arrives,chosen⟩)
    · exact .inl ⟨_,.language arrives wanted unknown⟩

omit [Libraries] in
theorem map_eq_error_iff {ε α β : Type} {first : Except ε α} {f : α → β} {fault : ε} :
    first.map f = .error fault ↔ first = .error fault := by
  cases first <;> simp [Except.map]

/-- Only a run that highlights can be without a report. -/
theorem run_eq_error_iff {fault : ScanFault} :
    run s arguments = .error fault ↔
      ∃ asked known text l, Arrives s arguments asked known text ∧ s.Chooses asked known l ∧
        l.highlight (s.format asked) text = .error fault := by
  constructor
  · intro unanswered
    rcases run_cases s arguments with
      ⟨problem,fails⟩ | ⟨output,printed⟩ | ⟨asked,known,text,l,arrives,chosen⟩
    · rw [run_of_fails fails] at unanswered
      contradiction
    · rw [printed] at unanswered
      contradiction
    · rw [run_of_chooses arrives chosen,map_eq_error_iff] at unanswered
      exact ⟨asked,known,text,l,arrives,chosen,unanswered⟩
  · rintro ⟨asked,known,text,l,arrives,chosen,unanswered⟩
    rw [run_of_chooses arrives chosen,map_eq_error_iff]
    exact unanswered

/-- The scans of all rules of the language, in the plain fragments that they meet, end with matches
apart from each other. -/
def Divides (l : Language) (text : Text) : Prop :=
  ∀ rule run, Rule.Meets l.rules text rule run →
    ∃ spans, rule.pattern.findAll run = .ok spans ∧ Span.Apart spans

omit [Libraries] in
theorem highlight_ok_iff_divides (l : Language) (format : Format) (text : Text) :
    (∃ output, l.highlight format text = .ok output) ↔ Divides l text :=
  (highlight_ok_iff_segment format l.rules text).trans (Rule.segment_ok_iff_apart l.rules text)

theorem divides_of_compiled {l : Language} (compiled : l.Compiled)
    (free : ∀ rule ∈ l.rules, rule.pattern.strays = false) (text : Text) :
    Divides l text := by
  rintro rule run ⟨k,fragments,atIndex,_⟩
  have member := List.mem_of_getElem? atIndex
  exact Rule.findAll_apart (compiled rule member) (free rule member) run

/-- A run has a report exactly if the language that it chooses, where it gets as far as that, divides
the text. -/
theorem run_ok_iff_divides (s : Surroundings Id) (arguments : List Text) :
    (∃ report, run s arguments = .ok report) ↔
      ∀ asked known text l, Arrives s arguments asked known text → s.Chooses asked known l →
        Divides l text := by
  constructor
  · rintro ⟨report,answered⟩ asked known text l arrives chosen
    rw [run_of_chooses arrives chosen] at answered
    obtain ⟨output,highlighted,_⟩ := map_eq_ok_iff.mp answered
    exact (highlight_ok_iff_divides l _ text).mp ⟨output,highlighted⟩
  · intro divides
    cases result : run s arguments with
    | ok report => exact ⟨report,rfl⟩
    | error fault =>
      obtain ⟨asked,known,text,l,arrives,chosen,unanswered⟩ := run_eq_error_iff.mp result
      obtain ⟨output,highlighted⟩ := (highlight_ok_iff_divides l (s.format asked) text).mpr
        (divides asked known text l arrives chosen)
      rw [unanswered] at highlighted
      contradiction

/-- A report of a run in which no stage fails is a success. -/
theorem success_of_not_fails (succeeds : ¬ ∃ problem, Fails s arguments problem) {report : Report}
    (answered : run s arguments = .ok report) : ∃ output, report = .success output := by
  rcases run_cases s arguments with fails | ⟨output,printed⟩ | ⟨_,_,_,l,arrives,chosen⟩
  · exact absurd fails succeeds
  · rw [printed,Except.ok.injEq] at answered
    exact ⟨output,answered.symm⟩
  · rw [run_of_chooses arrives chosen] at answered
    obtain ⟨output,_,reported⟩ := map_eq_ok_iff.mp answered
    exact ⟨output,reported.symm⟩

/-- A run that fails at a stage reports the problem of the first one that does, with nothing on the
standard output, and any other report is a success without errors. Help and the version are printed
whatever the files hold. A run has a report exactly if the language that it chooses, where it gets as
far as that, divides the text; a language none of whose patterns strays always does. -/
theorem run_all_or_nothing (s : Surroundings Id) (arguments : List Text) :
    (∀ problem, Fails s arguments problem →
      run s arguments = .ok ⟨1,[],"Error: ".toList ++ problem.message ++ ['\n']⟩) ∧
    ((¬ ∃ problem, Fails s arguments problem) →
      ∀ report, run s arguments = .ok report → report.code = 0 ∧ report.errors = []) ∧
    (∀ asked, Accepts arguments asked → .help ∈ asked ∨ .version ∈ asked →
      ∃ output, ∀ s' : Surroundings Id, run s' arguments = .ok ⟨0,output,[]⟩) ∧
    ((∃ report, run s arguments = .ok report) ↔
      ∀ asked known text l, Arrives s arguments asked known text → s.Chooses asked known l →
        Divides l text) ∧
    ((∀ asked known text l, Arrives s arguments asked known text → s.Chooses asked known l →
        ∀ rule ∈ l.rules, rule.pattern.strays = false) →
      ∃ report, run s arguments = .ok report) := by
  refine ⟨fun problem fails => run_of_fails fails,?_,?_,run_ok_iff_divides s arguments,?_⟩
  · intro succeeds report answered
    obtain ⟨output,rfl⟩ := success_of_not_fails succeeds answered
    exact ⟨rfl,rfl⟩
  · intro asked accepts informs
    apply run_of_not_works accepts
    rintro ⟨noHelp,noVersion⟩
    exact informs.elim noHelp noVersion
  · intro free
    apply (run_ok_iff_divides s arguments).mpr
    intro asked known text l arrives chosen
    have compiled := arrives.knows.compiled l chosen.mem
    exact divides_of_compiled compiled (free asked known text l arrives chosen) text

end

/-- Surroundings without a home directory and with one file, of the name `k`. -/
def Surroundings.holding (source input : Text) : Surroundings Id :=
  surroundings none ⟨[([['k']],(String.ofList source).toUTF8)]⟩ (String.ofList input).toUTF8

theorem Surroundings.holding_readFile (source input : Text) :
    (holding source input).readFile ['k'] = .ok source :=
  decodeText_eq_ok_iff.mpr rfl

theorem Surroundings.holding_readInput (source input : Text) :
    (holding source input).readInput = .ok input :=
  decodeText_eq_ok_iff.mpr rfl

/-- A run there gets as far as to look for a language if it loads the one file, which describes a
language, and highlights the standard input. -/
theorem arrives_holding {source : Text} {austral l : Language} (accepts : Accepts arguments asked)
    (works : Works asked) (noList : .list ∉ asked)
    (paths : asked.filterMap Request.rules? = [['k']]) (noFile : asked.filterMap Request.file? = [])
    (only : Austral.language .standard = .ok austral) (described : Language.parse source = .ok l)
    (input : Text) : Arrives (.holding source input) arguments asked [austral,l] input where
  accepts := accepts
  works := works
  noList := noList
  knows := by
    have loads : (Surroundings.holding source input).paths asked = [['k']] := paths
    refine ⟨austral,[l],only,?_,rfl⟩
    rw [loads]
    exact .cons ⟨source,Surroundings.holding_readFile source input,described⟩ .nil
  read := by
    have unnamed : (Options.ofRequests asked).file = none := Options.file_eq_none_iff.mpr noFile
    rw [Surroundings.text,unnamed]
    exact Surroundings.holding_readInput source input

theorem lastNamed?_name (austral l : Language) : lastNamed? [austral,l] l.name = some l :=
  List.find?_cons_of_pos (by simp [Language.key])

/-- A rule file whose only rule moves the start of its match in a look-behind. -/
def keepsOutFile : Text := "name='k'\nrules=[['r','(?<=\\Ka)','c']]".toList

theorem keepsOutFile_described : ∃ l, Language.parse keepsOutFile = .ok l ∧
    (l.name,l.highlight .html ['a']) = (['k'],.error .endless) :=
  exists_ok_of_map_toOption (by decide +kernel)

/-- No stage fails in a run that loads such a file and asks for its language, but the scan of the
letter never ends, so the run neither succeeds nor reports a problem. -/
theorem run_keepsOut_unanswered :
    run (.holding keepsOutFile ['a']) [['-','r'],['k'],['-','l'],['k']] = .error .endless ∧
      ¬ ∃ problem, Fails (.holding keepsOutFile ['a']) [['-','r'],['k'],['-','l'],['k']] problem := by
  obtain ⟨l,described,facts⟩ := keepsOutFile_described
  obtain ⟨named,endless⟩ := Prod.mk.inj facts
  obtain ⟨austral,only,_⟩ := History.standard
  have accepts : Accepts [['-','r'],['k'],['-','l'],['k']] [.rules ['k'],.language ['k']] :=
    ⟨.cons (.rules (by decide) ['k']) (.cons (.language (by decide) ['k']) .nil),Nat.zero_le 1⟩
  have arrives := arrives_holding accepts ⟨by decide,by decide⟩ (by decide) rfl rfl only described ['a']
  have chosen : (Surroundings.holding keepsOutFile ['a']).Chooses [.rules ['k'],.language ['k']]
      [austral,l] l :=
    .named (.asked rfl) (named ▸ lastNamed?_name austral l)
  have unanswered : run (.holding keepsOutFile ['a']) [['-','r'],['k'],['-','l'],['k']] =
      .error .endless :=
    (run_of_chooses arrives chosen).trans (map_eq_error_iff.mpr endless)
  refine ⟨unanswered,?_⟩
  rintro ⟨problem,fails⟩
  cases unanswered.symm.trans (run_of_fails fails)

end Highlighting.CommandLine
