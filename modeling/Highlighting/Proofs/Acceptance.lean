import Highlighting.Proofs.Arguments

/-! Which arguments are accepted, and what they come to. Arguments are accepted exactly if they are
requests from first to last, one file at most among them; otherwise the first fault is told. So what
two lists of arguments ask for can be merged, and only a file that both name stands against it. -/
namespace Highlighting.CommandLine

theorem Asks.append {arguments more : List Text} {asked others : List Request}
    (asks : Asks arguments asked) (asks' : Asks more others) :
    Asks (arguments ++ more) (asked ++ others) := by
  induction asks with
  | nil => exact asks'
  | cons first _ ih =>
    rw [List.append_assoc]
    exact .cons first ih

theorem OneFile.append {asked others : List Request} (oneFile : OneFile asked)
    (oneFile' : OneFile others)
    (apart : asked.filterMap Request.file? = [] ∨ others.filterMap Request.file? = []) :
    OneFile (asked ++ others) := by
  rw [OneFile] at oneFile oneFile' ⊢
  rw [List.filterMap_append]
  rcases apart with none | none
  · simpa [none] using oneFile'
  · simpa [none] using oneFile

namespace Options

/-- What is asked for first, and then more: of two languages or formats the later one counts. -/
def merge (first more : Options) : Options where
  language := more.language.or first.language
  ruleFiles := first.ruleFiles ++ more.ruleFiles
  format := more.format.or first.format
  list := first.list || more.list
  help := first.help || more.help
  version := first.version || more.version
  file := more.file.or first.file

theorem ofRequests_append (asked others : List Request) :
    ofRequests (asked ++ others) = (ofRequests asked).merge (ofRequests others) := by
  simp [ofRequests,merge,List.getLast?_append]

theorem file_isSome_iff {asked : List Request} :
    (ofRequests asked).file.isSome ↔ asked.filterMap Request.file? ≠ [] := by
  rw [← Option.ne_none_iff_isSome,ne_eq,file_eq_none_iff]

theorem file_toList {asked : List Request} (oneFile : OneFile asked) :
    (ofRequests asked).file.toList = asked.filterMap Request.file? := by
  rw [OneFile] at oneFile
  rcases files : asked.filterMap Request.file? with _ | ⟨path,_ | ⟨other,rest⟩⟩
  · simp [ofRequests,files]
  · simp [ofRequests,files]
  · simp [files] at oneFile

theorem parse_eq_ok_iff {arguments : List Text} {options : Options} :
    parse arguments = .ok options ↔
      ∃ asked, Accepts arguments asked ∧ options = ofRequests asked := by
  constructor
  · intro parsed
    rcases accepts_or_fault arguments with
      ⟨asked,accepts⟩ | ⟨before,asked,rest,problem,rfl,accepts,fault⟩
    · rw [parse_of_accepts accepts] at parsed
      exact ⟨asked,accepts,(Except.ok.inj parsed).symm⟩
    · rw [parse_of_fault accepts fault] at parsed
      contradiction
  · rintro ⟨asked,accepts,rfl⟩
    exact parse_of_accepts accepts

theorem parse_eq_error_iff {arguments : List Text} {problem : Problem} :
    parse arguments = .error problem ↔ ∃ before asked rest,
      arguments = before ++ rest ∧ Accepts before asked ∧ Fault asked rest problem := by
  constructor
  · intro failed
    rcases accepts_or_fault arguments with
      ⟨asked,accepts⟩ | ⟨before,asked,rest,other,rfl,accepts,fault⟩
    · rw [parse_of_accepts accepts] at failed
      contradiction
    · rw [parse_of_fault accepts fault] at failed
      cases failed
      exact ⟨before,asked,rest,rfl,accepts,fault⟩
  · rintro ⟨before,asked,rest,rfl,accepts,fault⟩
    exact parse_of_fault accepts fault

/-- Behind a request for a file, the next one for a file is at fault. -/
theorem read_second_file {prior asked : List Request} {arguments : List Text}
    (asks : Asks arguments asked) (earlier : prior.filterMap Request.file? ≠ [])
    (again : asked.filterMap Request.file? ≠ []) :
    (ofRequests prior).read arguments = .error .secondFile := by
  induction asks generalizing prior with
  | nil => simp at again
  | @cons written rest request asked first _ ih =>
    cases isFile : request.file? with
    | none =>
      rw [List.filterMap_cons_none isFile] at again
      rw [read_written first (.inl isFile),← ofRequests_append_singleton]
      exact ih (by simp [earlier]) again
    | some path =>
      cases first with
      | file named => exact read_fault (.secondFile named earlier)
      | _ => contradiction

theorem parse_append_of_accepts {arguments more : List Text} {asked others : List Request}
    (accepts : Accepts arguments asked) (accepts' : Accepts more others) :
    parse (arguments ++ more) =
      if (ofRequests asked).file.isSome ∧ (ofRequests others).file.isSome then .error .secondFile
      else .ok ((ofRequests asked).merge (ofRequests others)) := by
  by_cases apart : asked.filterMap Request.file? = [] ∨ others.filterMap Request.file? = []
  · have notBoth : ¬ ((ofRequests asked).file.isSome ∧ (ofRequests others).file.isSome) := by
      rcases apart with none | none <;> simp [file_isSome_iff,none]
    rw [if_neg notBoth,← ofRequests_append]
    exact parse_of_accepts
      ⟨accepts.asks.append accepts'.asks,accepts.oneFile.append accepts'.oneFile apart⟩
  · obtain ⟨first,second⟩ := not_or.mp apart
    rw [if_pos ⟨file_isSome_iff.mpr first,file_isSome_iff.mpr second⟩]
    exact (read_asks accepts.asks [] accepts.oneFile more).trans
      (read_second_file accepts'.asks first second)

end Options

open Options in
/-- Arguments are accepted exactly if they are a row of requests with one file at most, and then the
options are what these come to. Otherwise the problem is that of the first fault, behind requests
that are without fault. Two lists of arguments that are accepted are accepted together, for what both
ask for, unless both name a file. -/
theorem parse_row_of_requests (arguments : List Text) :
    (∀ options, Options.parse arguments = .ok options ↔ ∃ asked, Accepts arguments asked ∧
      options = ofRequests asked ∧ asked.filterMap Request.file? = options.file.toList) ∧
    (∀ problem, Options.parse arguments = .error problem ↔ ∃ before asked rest,
      arguments = before ++ rest ∧ Accepts before asked ∧ Fault asked rest problem) ∧
    ∀ more options others, Options.parse arguments = .ok options →
      Options.parse more = .ok others → Options.parse (arguments ++ more) =
        if options.file.isSome ∧ others.file.isSome then .error .secondFile
        else .ok (options.merge others) := by
  refine ⟨fun options => ?_,fun problem => parse_eq_error_iff,?_⟩
  · rw [parse_eq_ok_iff]
    constructor
    · rintro ⟨asked,accepts,rfl⟩
      exact ⟨asked,accepts,rfl,(file_toList accepts.oneFile).symm⟩
    · rintro ⟨asked,accepts,same,_⟩
      exact ⟨asked,accepts,same⟩
  · intro more options others parsed parsed'
    obtain ⟨asked,accepts,rfl⟩ := parse_eq_ok_iff.mp parsed
    obtain ⟨asked',accepts',rfl⟩ := parse_eq_ok_iff.mp parsed'
    exact parse_append_of_accepts accepts accepts'

/-- A value may look like a flag or like the standard input. -/
theorem parse_row_of_requests_dashes :
    Options.parse ["-l".toList,"-h".toList,"-".toList] =
      .ok { language := some "-h".toList, file := some "-".toList } ∧
    Options.parse ["-V".toList,"--lang".toList,"-".toList] =
      .ok { language := some "-".toList, version := true } ∧
    Options.parse (["-l".toList,"-h".toList,"-".toList] ++ ["-V".toList,"--lang".toList,"-".toList]) =
      .ok { language := some "-".toList, version := true, file := some "-".toList } := by
  have first : Options.parse ["-l".toList,"-h".toList,"-".toList] =
      .ok { language := some "-h".toList, file := some "-".toList } := by rfl
  have more : Options.parse ["-V".toList,"--lang".toList,"-".toList] =
      .ok { language := some "-".toList, version := true } := by rfl
  exact ⟨first,more,(parse_row_of_requests _).2.2 _ _ _ first more⟩

end Highlighting.CommandLine
