import Highlighting.CommandLine

/-! Arguments as a list of requests. A request is one argument, or a flag with the value behind it,
and the requests are read from left to right. Of a flag that is repeated the last value counts, but
rule files add up. Reading stops at the first fault, which is told in terms of what was asked before
it. -/
namespace Highlighting.CommandLine

def Flag.names : Flag → List Text
  | help => ["-h".toList,"--help".toList]
  | version => ["-V".toList,"--version".toList]
  | list => ["-L".toList,"--list".toList]
  | language => ["-l".toList,"--lang".toList]
  | rules => ["-r".toList,"--rules".toList]
  | format => ["-f".toList,"--format".toList]
  | unknown => []
  | file => []

/-- An argument is a file unless a dash begins it; a dash alone stands for a file too. -/
def NamesFile (argument : Text) : Prop := argument.head? = some '-' → argument = standardInput

namespace Flag

theorem ofArgument_of_mem_names {argument : Text} {flag : Flag} (named : argument ∈ flag.names) :
    ofArgument argument = flag := by
  cases flag <;> simp only [names,List.mem_cons,List.not_mem_nil,or_false] at named
  all_goals rcases named with rfl | rfl <;> decide

theorem not_namesFile_of_mem_names {argument : Text} {flag : Flag}
    (named : argument ∈ flag.names) : ¬ NamesFile argument := by
  cases flag <;> simp only [names,List.mem_cons,List.not_mem_nil,or_false] at named
  all_goals rcases named with rfl | rfl <;> unfold NamesFile standardInput <;> decide

theorem mem_names_or (argument : Text) :
    argument ∈ (ofArgument argument).names ∨ ofArgument argument =
      if argument.head? = some '-' ∧ argument ≠ standardInput then .unknown else .file := by
  have spelled {name : String} (same : String.ofList argument = name) : argument = name.toList := by
    rw [← same,String.toList_ofList]
  unfold ofArgument
  split
  case h_13 => exact .inr rfl
  all_goals next same => exact .inl (by simp [names,spelled same])

theorem ofArgument_of_namesFile {argument : Text} (isFile : NamesFile argument) :
    ofArgument argument = .file := by
  have unnamed : argument ∉ (ofArgument argument).names := fun named =>
    not_namesFile_of_mem_names named isFile
  rw [(mem_names_or argument).resolve_left unnamed,if_neg]
  exact fun ⟨dashed,other⟩ => other (isFile dashed)

theorem ofArgument_of_unnamed {argument : Text} (noFile : ¬ NamesFile argument)
    (unnamed : ∀ flag : Flag, argument ∉ flag.names) : ofArgument argument = .unknown := by
  rw [(mem_names_or argument).resolve_left (unnamed _),if_pos]
  exact Classical.not_imp.mp noFile

end Flag

inductive Request where
  | help
  | version
  | list
  | language (name : Text)
  | rules (path : Text)
  | format (format : Format)
  | file (path : Text)
  deriving DecidableEq, Repr

namespace Request

def language? : Request → Option Text
  | language name => some name
  | _ => none

def rules? : Request → Option Text
  | rules path => some path
  | _ => none

def format? : Request → Option Format
  | format f => some f
  | _ => none

def file? : Request → Option Text
  | file path => some path
  | _ => none

inductive Written : Request → List Text → Prop
  | help {argument : Text} (named : argument ∈ Flag.help.names) : Written help [argument]
  | version {argument : Text} (named : argument ∈ Flag.version.names) : Written version [argument]
  | list {argument : Text} (named : argument ∈ Flag.list.names) : Written list [argument]
  | language {argument : Text} (named : argument ∈ Flag.language.names) (name : Text) :
      Written (language name) [argument,name]
  | rules {argument : Text} (named : argument ∈ Flag.rules.names) (path : Text) :
      Written (rules path) [argument,path]
  | format {argument name : Text} {format : Format} (named : argument ∈ Flag.format.names)
      (known : Format.ofName? name = some format) : Written (.format format) [argument,name]
  | file {path : Text} (isFile : NamesFile path) : Written (file path) [path]

theorem Written.length_pos {request : Request} {written : List Text}
    (isWritten : request.Written written) : 0 < written.length := by
  cases isWritten <;> simp

end Request

/-- What the requests come to: the last language and the last format, all rule files in order. -/
def Options.ofRequests (asked : List Request) : Options where
  language := (asked.filterMap Request.language?).getLast?
  ruleFiles := asked.filterMap Request.rules?
  format := (asked.filterMap Request.format?).getLast?
  list := .list ∈ asked
  help := .help ∈ asked
  version := .version ∈ asked
  file := (asked.filterMap Request.file?).getLast?

inductive Asks : List Text → List Request → Prop
  | nil : Asks [] []
  | cons {written rest : List Text} {request : Request} {asked : List Request}
      (first : request.Written written) (later : Asks rest asked) :
      Asks (written ++ rest) (request :: asked)

def OneFile (asked : List Request) : Prop := (asked.filterMap Request.file?).length ≤ 1

/-- A request behind others is not for a file, or is the first one for a file. -/
theorem OneFile.free {prior later : List Request} {request : Request}
    (oneFile : OneFile (prior ++ request :: later)) :
    request.file? = none ∨ prior.filterMap Request.file? = [] := by
  cases isFile : request.file? with
  | none => exact .inl rfl
  | some path =>
    rw [OneFile,List.filterMap_append,List.filterMap_cons_some isFile] at oneFile
    simp only [List.length_append,List.length_cons] at oneFile
    exact .inr (List.eq_nil_of_length_eq_zero (by omega))

theorem OneFile.append_singleton {prior : List Request} {request : Request} (oneFile : OneFile prior)
    (free : request.file? = none ∨ prior.filterMap Request.file? = []) :
    OneFile (prior ++ [request]) := by
  rcases free with none | none
  · simpa [OneFile,none] using oneFile
  · cases isFile : request.file? <;> simp [OneFile,none,isFile]

/-- The arguments are without fault and make the requests. -/
structure Accepts (arguments : List Text) (asked : List Request) : Prop where
  asks : Asks arguments asked
  oneFile : OneFile asked

/-- What is wrong with the first of some arguments, behind others that have made requests. -/
inductive Fault (asked : List Request) : List Text → Problem → Prop
  | missingValue {flag : Flag} {argument : Text}
      (takesValue : flag = .language ∨ flag = .rules ∨ flag = .format)
      (named : argument ∈ flag.names) : Fault asked [argument] (.missingValue argument)
  | unknownFormat {argument name : Text} {rest : List Text}
      (named : argument ∈ Flag.format.names) (unknown : Format.ofName? name = none) :
      Fault asked (argument :: name :: rest) (.unknownFormat name)
  | unknownOption {argument : Text} {rest : List Text} (noFile : ¬ NamesFile argument)
      (unnamed : ∀ flag : Flag, argument ∉ flag.names) :
      Fault asked (argument :: rest) (.unknownOption argument)
  | secondFile {path : Text} {rest : List Text} (isFile : NamesFile path)
      (earlier : asked.filterMap Request.file? ≠ []) : Fault asked (path :: rest) .secondFile

namespace Options

def grant (options : Options) : Request → Options
  | .help => { options with help := true }
  | .version => { options with version := true }
  | .list => { options with list := true }
  | .language name => { options with language := some name }
  | .rules path => { options with ruleFiles := options.ruleFiles ++ [path] }
  | .format format => { options with format := some format }
  | .file path => { options with file := some path }

theorem ofRequests_append_singleton (asked : List Request) (request : Request) :
    ofRequests (asked ++ [request]) = (ofRequests asked).grant request := by
  cases request <;>
    simp [ofRequests,grant,List.filterMap_cons,Request.language?,Request.rules?,Request.format?,
      Request.file?]

theorem read_written {options : Options} {request : Request} {written : List Text}
    (first : request.Written written) (free : request.file? = none ∨ options.file = none)
    (rest : List Text) : options.read (written ++ rest) = (options.grant request).read rest := by
  cases first with
  | file isFile =>
    have none : options.file = none := by simpa [Request.file?] using free
    simp [read,Flag.ofArgument_of_namesFile isFile,none,grant]
  | format named known => simp [read,Flag.ofArgument_of_mem_names named,formatNamed,known,grant]
  | help named => simp [read,Flag.ofArgument_of_mem_names named,grant]
  | version named => simp [read,Flag.ofArgument_of_mem_names named,grant]
  | list named => simp [read,Flag.ofArgument_of_mem_names named,grant]
  | language named name => simp [read,Flag.ofArgument_of_mem_names named,grant]
  | rules named path => simp [read,Flag.ofArgument_of_mem_names named,grant]

theorem file_eq_none_iff {asked : List Request} :
    (ofRequests asked).file = none ↔ asked.filterMap Request.file? = [] :=
  List.getLast?_eq_none_iff

theorem read_fault {asked : List Request} {arguments : List Text} {problem : Problem}
    (fault : Fault asked arguments problem) :
    (ofRequests asked).read arguments = .error problem := by
  cases fault with
  | missingValue takesValue named =>
    rcases takesValue with rfl | rfl | rfl <;> simp [read,Flag.ofArgument_of_mem_names named]
  | unknownFormat named unknown =>
    simp [read,Flag.ofArgument_of_mem_names named,formatNamed,unknown]
  | unknownOption noFile unnamed => simp [read,Flag.ofArgument_of_unnamed noFile unnamed]
  | secondFile isFile earlier =>
    obtain ⟨file,given⟩ := Option.ne_none_iff_exists'.mp (mt file_eq_none_iff.mp earlier)
    simp [read,Flag.ofArgument_of_namesFile isFile,given]

theorem read_asks {arguments : List Text} {asked : List Request} (asks : Asks arguments asked)
    (prior : List Request) (oneFile : OneFile (prior ++ asked)) (rest : List Text) :
    (ofRequests prior).read (arguments ++ rest) = (ofRequests (prior ++ asked)).read rest := by
  induction asks generalizing prior with
  | nil => simp
  | @cons written later request asked first _ ih =>
    have free : request.file? = none ∨ (ofRequests prior).file = none := by
      rw [file_eq_none_iff]
      exact oneFile.free
    rw [List.append_assoc,read_written first free,← ofRequests_append_singleton,
      ih _ (by simpa using oneFile),List.append_assoc,List.singleton_append]

/-- A request begins with the first argument, or that is at fault. -/
theorem exists_request_or_fault (asked : List Request) (argument : Text) (rest : List Text) :
    (∃ request written later, argument :: rest = written ++ later ∧ Request.Written request written ∧
      (request.file? = none ∨ asked.filterMap Request.file? = [])) ∨
    ∃ problem, Fault asked (argument :: rest) problem := by
  by_cases isFile : NamesFile argument
  · by_cases free : asked.filterMap Request.file? = []
    · exact .inl ⟨.file argument,[argument],rest,rfl,.file isFile,.inr free⟩
    · exact .inr ⟨_,.secondFile isFile free⟩
  by_cases isFlag : ∃ flag : Flag, argument ∈ flag.names
  case neg => exact .inr ⟨_,.unknownOption isFile (not_exists.mp isFlag)⟩
  obtain ⟨flag,named⟩ := isFlag
  cases flag with
  | help => exact .inl ⟨.help,[argument],rest,rfl,.help named,.inl rfl⟩
  | version => exact .inl ⟨.version,[argument],rest,rfl,.version named,.inl rfl⟩
  | list => exact .inl ⟨.list,[argument],rest,rfl,.list named,.inl rfl⟩
  | language =>
    rcases rest with _ | ⟨name,rest⟩
    · exact .inr ⟨_,.missingValue (.inl rfl) named⟩
    · exact .inl ⟨.language name,[argument,name],rest,rfl,.language named name,.inl rfl⟩
  | rules =>
    rcases rest with _ | ⟨path,rest⟩
    · exact .inr ⟨_,.missingValue (.inr (.inl rfl)) named⟩
    · exact .inl ⟨.rules path,[argument,path],rest,rfl,.rules named path,.inl rfl⟩
  | format =>
    rcases rest with _ | ⟨name,rest⟩
    · exact .inr ⟨_,.missingValue (.inr (.inr rfl)) named⟩
    · cases known : Format.ofName? name with
      | none => exact .inr ⟨_,.unknownFormat named known⟩
      | some format =>
        exact .inl ⟨.format format,[argument,name],rest,rfl,.format named known,.inl rfl⟩
  | unknown => contradiction
  | file => contradiction

/-- Arguments are requests to their end, or up to the first fault. -/
theorem exists_asks_or_fault {prior : List Request} (oneFile : OneFile prior)
    (arguments : List Text) :
    (∃ asked, Asks arguments asked ∧ OneFile (prior ++ asked)) ∨
    ∃ before asked rest problem, arguments = before ++ rest ∧ Asks before asked ∧
      OneFile (prior ++ asked) ∧ Fault (prior ++ asked) rest problem := by
  match arguments with
  | [] => exact .inl ⟨[],.nil,by simpa using oneFile⟩
  | argument :: rest =>
    rcases exists_request_or_fault prior argument rest with
      ⟨request,written,later,parts,first,free⟩ | ⟨problem,fault⟩
    · have shorter : later.length < (argument :: rest).length := by
        rw [parts,List.length_append]
        have := first.length_pos
        omega
      rw [parts]
      rcases exists_asks_or_fault (oneFile.append_singleton free) later with
        ⟨asked,asks,one⟩ | ⟨before,asked,rest',problem,rfl,asks,one,fault⟩
      · exact .inl ⟨request :: asked,.cons first asks,by simpa using one⟩
      · exact .inr ⟨written ++ before,request :: asked,rest',problem,by simp,.cons first asks,
          by simpa using one,by simpa using fault⟩
    · exact .inr ⟨[],[],argument :: rest,problem,rfl,.nil,by simpa using oneFile,by simpa using fault⟩
termination_by arguments.length
decreasing_by exact shorter

theorem parse_of_accepts {arguments : List Text} {asked : List Request}
    (accepts : Accepts arguments asked) : parse arguments = .ok (ofRequests asked) := by
  have whole := read_asks accepts.asks [] accepts.oneFile []
  rwa [List.append_nil,List.nil_append] at whole

theorem parse_of_fault {before rest : List Text} {asked : List Request} {problem : Problem}
    (accepts : Accepts before asked) (fault : Fault asked rest problem) :
    parse (before ++ rest) = .error problem := by
  have whole := read_asks accepts.asks [] accepts.oneFile rest
  rw [List.nil_append,read_fault fault] at whole
  exact whole

/-- Arguments are accepted, or there is a first fault. -/
theorem accepts_or_fault (arguments : List Text) :
    (∃ asked, Accepts arguments asked) ∨ ∃ before asked rest problem,
      arguments = before ++ rest ∧ Accepts before asked ∧ Fault asked rest problem := by
  have none : OneFile [] := Nat.zero_le 1
  rcases exists_asks_or_fault none arguments with
    ⟨asked,asks,one⟩ | ⟨before,asked,rest,problem,parts,asks,one,fault⟩
  · exact .inl ⟨asked,asks,one⟩
  · exact .inr ⟨before,asked,rest,problem,parts,⟨asks,one⟩,fault⟩

end Options

end Highlighting.CommandLine
