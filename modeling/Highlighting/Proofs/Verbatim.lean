import Highlighting.Proofs.Stages

/-! Plain output is what has been read, byte for byte. Whatever language a run uses, its rules only
divide the text, and the plain format writes the fragments one behind the other. What rules can do is
fail to divide it, so that nothing is written at all. -/
namespace Highlighting

theorem highlight_plain {rules : List Rule} {text output : Text}
    (highlighted : highlight .plain rules text = .ok output) : output = text := by
  obtain ⟨fragments,divided,rfl⟩ := map_eq_ok_iff.mp highlighted
  exact concat_of_segment divided

theorem highlight_plain_of_wellFormed {rules : List Rule}
    (wellFormed : ∀ rule ∈ rules, rule.pattern.search.WellFormed) (text : Text) :
    highlight .plain rules text = .ok text := by
  obtain ⟨fragments,divided⟩ := Rule.segment_ok_of_wellFormed wellFormed text
  obtain ⟨output,highlighted⟩ := (highlight_ok_iff_segment .plain rules text).mpr ⟨fragments,divided⟩
  rw [highlighted,highlight_plain highlighted]

namespace CommandLine

open Registry

/-- The bytes of files and of the standard input, or why there are none. -/
structure Bytes where
  file : Text → Except FileError ByteArray
  input : Except FileError ByteArray

/-- What is read in the surroundings is the text that the bytes encode. -/
structure Surroundings.Decodes (s : Surroundings Id) (bytes : Bytes) : Prop where
  readFile : ∀ path, s.readFile path = (bytes.file path).bind decodeText
  readInput : s.readInput = bytes.input.bind decodeText

/-- The bytes in a tree of files; a directory has none. -/
def bytesIn (tree : FileTree) (input : ByteArray) : Bytes where
  file := fun path => (tree.walk path).bind fun
    | .file content => .ok content
    | .directory _ | .outside => .error .isDirectory
  input := .ok input

theorem surroundings_decodes (home : Option Text) (tree : FileTree) (input : ByteArray) :
    (surroundings home tree input).Decodes (bytesIn tree input) := by
  refine ⟨fun path => ?_,rfl⟩
  change tree.read path = _
  cases leads : tree.walk path with
  | error cause => simp [FileTree.read,bytesIn,leads,bind,Except.bind]
  | ok spot => cases spot <;> simp [FileTree.read,bytesIn,leads,bind,Except.bind]

variable {s : Surroundings Id} {bytes : Bytes} {asked : List Request} {text : Text}

/-- The bytes that a run highlights: those of the file that is asked for, or else those of the
standard input. -/
inductive Reads (bytes : Bytes) (asked : List Request) : ByteArray → Prop
  | input {content : ByteArray} (noFile : ∀ path, .file path ∈ asked → path = standardInput)
      (given : bytes.input = .ok content) : Reads bytes asked content
  | file {path : Text} {content : ByteArray} (named : .file path ∈ asked)
      (other : path ≠ standardInput) (given : bytes.file path = .ok content) :
      Reads bytes asked content

theorem mem_filterMap_file? {path : Text} :
    path ∈ asked.filterMap Request.file? ↔ .file path ∈ asked := by
  rw [List.mem_filterMap]
  constructor
  · rintro ⟨request,member,isFile⟩
    cases request with
    | file other =>
      cases isFile
      exact member
    | _ => contradiction
  · exact fun member => ⟨.file path,member,rfl⟩

theorem OneFile.only {path : Text} (oneFile : OneFile asked)
    (last : (asked.filterMap Request.file?).getLast? = some path) :
    asked.filterMap Request.file? = [path] := by
  obtain ⟨before,parts⟩ := List.getLast?_eq_some_iff.mp last
  rw [OneFile,parts,List.length_append,List.length_singleton] at oneFile
  have none : before = [] := List.eq_nil_of_length_eq_zero (by omega)
  rw [parts,none,List.nil_append]

theorem bind_decodeText_eq_ok_iff {content : Except FileError ByteArray} :
    content.bind decodeText = .ok text ↔ content = .ok (String.ofList text).toUTF8 := by
  cases content with
  | error cause => simp [Except.bind]
  | ok content =>
    rw [Except.ok.injEq]
    exact decodeText_eq_ok_iff

/-- The bytes that have been read are those that encode the text. -/
theorem reads_of_text (decodes : s.Decodes bytes) (oneFile : OneFile asked)
    (read : s.text (Options.ofRequests asked) = .ok text) :
    Reads bytes asked (String.ofList text).toUTF8 := by
  cases last : (asked.filterMap Request.file?).getLast? with
  | none =>
    simp only [Surroundings.text,Options.ofRequests,last,decodes.readInput] at read
    refine .input (fun path named => ?_) (bind_decodeText_eq_ok_iff.mp read)
    have member := mem_filterMap_file?.mpr named
    rw [List.getLast?_eq_none_iff.mp last] at member
    contradiction
  | some path =>
    have only := oneFile.only last
    simp only [Surroundings.text,Options.ofRequests,last] at read
    split at read
    · next isInput =>
      rw [decodes.readInput] at read
      refine .input (fun other named => ?_) (bind_decodeText_eq_ok_iff.mp read)
      have member := mem_filterMap_file?.mpr named
      rw [only,List.mem_singleton] at member
      rw [member,isInput]
    · next other =>
      rw [decodes.readFile] at read
      refine .file (mem_filterMap_file?.mp ?_) other (bind_decodeText_eq_ok_iff.mp read)
      rw [only,List.mem_singleton]

/-- The plain renderer gives every text back that well-formed rules have divided. Wherever a run
takes its texts from, if it gets to a language with the plain format, it reports what it has read and
nothing else, if it has a report; and it has one if the searches of that language are well-formed. -/
theorem run_plain_verbatim [Libraries] :
    (∀ rules text, (∀ rule ∈ rules, rule.pattern.search.WellFormed) →
      highlightWith Format.plain.renderer rules text = .ok text) ∧
    ∀ (s : Surroundings Id) arguments asked known text l,
      Arrives s arguments asked known text → s.Chooses asked known l → s.format asked = .plain →
      (∀ bytes, s.Decodes bytes → Reads bytes asked (String.ofList text).toUTF8) ∧
      (∀ report, run s arguments = .ok report → report = .success text) ∧
      ((∀ rule ∈ l.rules, rule.pattern.search.WellFormed) →
        run s arguments = .ok (.success text)) := by
  refine ⟨fun rules text wellFormed => ?_,?_⟩
  · rw [highlightWith_renderer]
    exact highlight_plain_of_wellFormed wellFormed text
  · intro s arguments asked known text l arrives chosen plain
    refine ⟨fun bytes decodes => reads_of_text decodes arrives.accepts.oneFile arrives.read,?_,?_⟩
    · intro report answered
      rw [run_of_chooses arrives chosen,plain] at answered
      obtain ⟨output,highlighted,rfl⟩ := map_eq_ok_iff.mp answered
      rw [highlight_plain highlighted]
    · intro wellFormed
      rw [run_of_chooses arrives chosen,plain]
      exact map_eq_ok_iff.mpr ⟨text,highlight_plain_of_wellFormed wellFormed text,rfl⟩

def letterFile : Text := "name='k'\nrules=[['r','a','c']]".toList

theorem letterFile_described : ∃ l, Language.parse letterFile = .ok l ∧
    (l.name,l.rules.map fun rule => rule.pattern.strays) = (['k'],[false]) :=
  exists_ok_of_map_toOption (by decide +kernel)

/-- A run that loads such a file gives the input back in the plain format, with the letter and with
what looks like markup. -/
theorem run_plain_verbatim_letter :
    run (surroundings none ⟨[([['k']],(String.ofList letterFile).toUTF8)]⟩
        (String.ofList ['<','a','>']).toUTF8)
      [['-','r'],['k'],['-','l'],['k'],['-','f'],"plain".toList] =
        .ok (.success ['<','a','>']) := by
  obtain ⟨l,described,facts⟩ := letterFile_described
  obtain ⟨named,sources⟩ := Prod.mk.inj facts
  obtain ⟨austral,only,_⟩ := History.standard
  have accepts : Accepts [['-','r'],['k'],['-','l'],['k'],['-','f'],"plain".toList]
      [.rules ['k'],.language ['k'],.format .plain] :=
    ⟨.cons (.rules (by decide) ['k']) (.cons (.language (by decide) ['k'])
      (.cons (.format (by decide) Format.ofName?_plain) .nil)),Nat.zero_le 1⟩
  have arrives := arrives_holding accepts ⟨by decide,by decide⟩ (by decide) rfl rfl only described
    ['<','a','>']
  have chosen : (Surroundings.holding letterFile ['<','a','>']).Chooses
      [.rules ['k'],.language ['k'],.format .plain] [austral,l] l :=
    .named (.asked rfl) (named ▸ lastNamed?_name austral l)
  have wellFormed : ∀ rule ∈ l.rules, rule.pattern.search.WellFormed := by
    intro rule member
    have free := List.mem_map_of_mem (f := fun r : Rule => r.pattern.strays) member
    rw [sources,List.mem_singleton] at free
    exact Pattern.search_wellFormed (Language.compiled_of_parse described rule member) free
  exact (run_plain_verbatim.2 _ _ _ _ _ l arrives chosen rfl).2.2 wellFormed

end CommandLine

end Highlighting
