import Highlighting.Proofs.Arguments
import Highlighting.Proofs.Loading

/-! How a run chooses its language. It knows the built-in language and those of its rule files. The
name that the arguments give comes first, then the extension of the file, then the name in the
settings, and the built-in name last. Under a name the last language counts, so one that is known
cannot be lost: a file can only put another language of the same name in its place. -/
namespace Highlighting.CommandLine

open Registry

variable {s : Surroundings Id} {asked : List Request} {known : List Language}

def Surroundings.entries (s : Surroundings Id) : Table Text :=
  match Settings.path? s.home with
  | none => []
  | some path =>
    match (s.readFile path : Except FileError Text) with
    | .ok contents => Settings.table contents
    | .error _ => []

theorem settings_eq (s : Surroundings Id) : s.settings = Settings.ofTable s.home s.entries := by
  unfold Surroundings.settings Surroundings.entries
  cases Settings.path? s.home with
  | none => rfl
  | some path =>
    change (match s.readFile path with
      | .ok contents => Settings.parse s.home contents
      | .error _ => {}) = Settings.ofTable s.home (match s.readFile path with
      | .ok contents => Settings.table contents
      | .error _ => [])
    cases (s.readFile path : Except FileError Text) <;> rfl

/-- The format of a run: the last that the arguments give, or that of the settings, or markup. -/
def Surroundings.format (s : Surroundings Id) (asked : List Request) : Format :=
  ((asked.filterMap Request.format?).getLast?.or
    ((Table.get? s.entries "format".toList).bind Format.ofName?)).getD .html

theorem format_eq (s : Surroundings Id) (asked : List Request) :
    (Options.ofRequests asked).format.getD s.settings.format = s.format asked := by
  rw [settings_eq]
  simp only [Surroundings.format,Options.ofRequests,Settings.ofTable]
  cases (asked.filterMap Request.format?).getLast? <;> rfl

def Surroundings.paths (s : Surroundings Id) (asked : List Request) : List Text :=
  s.settings.ruleFiles ++ asked.filterMap Request.rules?

/-- The languages of a run whose rule files can all be loaded, in the order of their loading. -/
def Surroundings.Knows [Libraries] (s : Surroundings Id) (asked : List Request)
    (known : List Language) : Prop :=
  ∃ austral languages, Austral.language .standard = .ok austral ∧
    List.Forall₂ s.Describes (s.paths asked) languages ∧ known = austral :: languages

def detected? (asked : List Request) (known : List Language) : Option Language :=
  (asked.filterMap Request.file?).getLast?.bind (ofList known).detect?

/-- The name under which a run looks for its language. -/
inductive Surroundings.Wants (s : Surroundings Id) (asked : List Request) (known : List Language) :
    Text → Prop
  | asked {name : Text} (last : (asked.filterMap Request.language?).getLast? = some name) :
      Wants s asked known name
  | settings (unasked : asked.filterMap Request.language? = [])
      (undetected : detected? asked known = none) :
      Wants s asked known (s.settings.language.getD Austral.name)

inductive Surroundings.Chooses (s : Surroundings Id) (asked : List Request)
    (known : List Language) : Language → Prop
  | named {name : Text} {l : Language} (wanted : s.Wants asked known name)
      (last : lastNamed? known name = some l) : Chooses s asked known l
  | detected {l : Language} (unasked : asked.filterMap Request.language? = [])
      (leads : detected? asked known = some l) : Chooses s asked known l

theorem require_ofList (known : List Language) (name : Text) :
    (ofList known).require name =
      match lastNamed? known name with
      | some l => .ok l
      | none => .error (.unknownLanguage name) := by
  cases last : lastNamed? known name <;> simp only [Registry.require,get?_ofList,last]

theorem selectLanguage_of_wants {name : Text} (wanted : s.Wants asked known name) :
    selectLanguage (ofList known) (Options.ofRequests asked) s.settings =
      (ofList known).require name := by
  cases wanted with
  | asked last => simp only [selectLanguage,Options.ofRequests,last]
  | settings unasked undetected =>
    rw [detected?] at undetected
    simp only [selectLanguage,Options.ofRequests,unasked,List.getLast?_nil,undetected]

theorem selectLanguage_of_chooses {l : Language} (chosen : s.Chooses asked known l) :
    selectLanguage (ofList known) (Options.ofRequests asked) s.settings = .ok l := by
  cases chosen with
  | named wanted last => rw [selectLanguage_of_wants wanted,require_ofList,last]
  | detected unasked leads =>
    rw [detected?] at leads
    simp only [selectLanguage,Options.ofRequests,unasked,List.getLast?_nil,leads]

theorem selectLanguage_of_unknown {name : Text} (wanted : s.Wants asked known name)
    (unknown : ∀ l ∈ known, l.key ≠ Text.lower name) :
    selectLanguage (ofList known) (Options.ofRequests asked) s.settings =
      .error (.unknownLanguage name) := by
  rw [selectLanguage_of_wants wanted,require_ofList,lastNamed?_eq_none_iff.mpr unknown]

/-- A run looks for a language by its name, unless the extension of the file tells. -/
theorem wants_or_detected (s : Surroundings Id) (asked : List Request) (known : List Language) :
    (∃ name, s.Wants asked known name) ∨ ∃ l, s.Chooses asked known l := by
  cases named : (asked.filterMap Request.language?).getLast? with
  | some name => exact .inl ⟨name,.asked named⟩
  | none =>
    have unasked := List.getLast?_eq_none_iff.mp named
    cases leads : detected? asked known with
    | none => exact .inl ⟨_,.settings unasked leads⟩
    | some l => exact .inr ⟨l,.detected unasked leads⟩

/-- A language is chosen unless the name that is looked for is that of none. -/
theorem chooses_or_unknown (s : Surroundings Id) (asked : List Request) (known : List Language) :
    (∃ l, s.Chooses asked known l) ∨
      ∃ name, s.Wants asked known name ∧ ∀ l ∈ known, l.key ≠ Text.lower name := by
  rcases wants_or_detected s asked known with ⟨name,wanted⟩ | chosen
  · cases last : lastNamed? known name with
    | none => exact .inr ⟨name,wanted,lastNamed?_eq_none_iff.mp last⟩
    | some l => exact .inl ⟨l,.named wanted last⟩
  · exact .inl chosen

/-- The built-in name is that of a known language, whatever has been loaded. -/
theorem Surroundings.Knows.builtIn [Libraries] (knows : s.Knows asked known) :
    ∃ l ∈ known, l.key = Text.lower Austral.name := by
  obtain ⟨austral,languages,only,_,rfl⟩ := knows
  rw [Austral.language_eq,Except.ok.injEq] at only
  exact ⟨austral,List.mem_cons_self,by rw [← only]; rfl⟩

theorem Surroundings.Knows.compiled [Libraries] (knows : s.Knows asked known) :
    ∀ l ∈ known, l.Compiled := by
  obtain ⟨austral,languages,only,described,rfl⟩ := knows
  exact List.forall_mem_cons.mpr ⟨Language.compiled_builtIn only,compiled_of_described described⟩

theorem Surroundings.Chooses.mem {l : Language} (chosen : s.Chooses asked known l) : l ∈ known := by
  cases chosen with
  | named _ last => exact List.mem_reverse.mp (List.mem_of_find?_eq_some last)
  | detected _ leads =>
    obtain ⟨path,_,detected⟩ := Option.bind_eq_some_iff.mp leads
    obtain ⟨_,_,_,_,rfl,_⟩ := (History.ofList known).kept.detect?_eq_some_iff.mp detected
    simp

end Highlighting.CommandLine
