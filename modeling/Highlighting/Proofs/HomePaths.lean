import Highlighting.Proofs.Assignments

/-! Rule files in the home directory. An entry `~/rest` of the settings file leads to `rest` within the
home directory, but for a `rest` that is an absolute path: it stays what it is, wherever it leads. -/
namespace Highlighting

namespace Path

/-- The component that says where a path starts, if there is one. -/
def start (path : Text) : List Component :=
  match (Text.splitOn '/' path).head? with
  | some [] => if isAbsolute path then [.root] else []
  | some ['.'] => [.here]
  | _ => []

def steps (path : Text) : List Component := (Text.splitOn '/' path).filterMap step?

theorem components_eq (path : Text) : components path = start path ++ steps path := rfl

theorem components_nil : components [] = [] := by decide

theorem steps_append_slash (base path : Text) :
    steps (base ++ '/' :: path) = steps base ++ steps path := by
  rw [steps,Text.splitOn_append_mark,List.filterMap_append,steps,steps]

theorem start_append_slash {base : Text} (nonempty : base ≠ []) (path : Text) :
    start (base ++ '/' :: path) = start base := by
  obtain ⟨c,rest,rfl⟩ := List.exists_cons_of_ne_nil nonempty
  obtain ⟨first,pieces,split⟩ := List.exists_cons_of_ne_nil (Text.splitOn_ne_nil '/' (c :: rest))
  simp only [start,Text.splitOn_append_mark,split]
  rfl

theorem start_slash (path : Text) : start ('/' :: path) = [.root] := by
  have split := Text.splitOn_append_mark '/' [] path
  simp only [List.nil_append] at split
  rw [start,split]
  rfl

theorem start_ne_root {path : Text} (relative : isAbsolute path = false) : start path ≠ [.root] := by
  unfold start
  split
  · simp [relative]
  · simp
  · simp

theorem isAbsolute_iff {path : Text} : isAbsolute path = true ↔ ∃ rest, path = '/' :: rest := by
  cases path <;> simp [isAbsolute]

theorem isAbsolute_dropWhile (path : Text) : isAbsolute (path.dropWhile (· = '/')) = false := by
  have first := List.head?_dropWhile_not (· = '/') path
  cases rest : path.dropWhile (· = '/') with
  | nil => rfl
  | cons c more =>
    rw [rest] at first
    simpa [isAbsolute] using first

theorem components_absolute {path : Text} (absolute : isAbsolute path = true) :
    components path = [.root] ++ steps path := by
  obtain ⟨rest,rfl⟩ := isAbsolute_iff.mp absolute
  rw [components_eq,start_slash]

/-- The components that a path has behind another one. Slashes at its start do not count, and a dot
there counts behind the empty path only. -/
def behind (base path : Text) : List Component :=
  (if base = [] then start (path.dropWhile (· = '/')) else []) ++ steps path

theorem join_absolute {path : Text} (absolute : isAbsolute path = true) (base : Text) :
    join base path = path := if_pos absolute

theorem components_append_slash {base : Text} (nonempty : base ≠ []) (path : Text) :
    components (base ++ '/' :: path) = components base ++ steps path := by
  rw [components_eq,start_append_slash nonempty,steps_append_slash,← List.append_assoc,
    ← components_eq]

theorem components_ended_append (front path : Text) :
    components (front ++ ['/'] ++ path) = components (front ++ ['/']) ++ steps path := by
  rw [List.append_assoc,List.singleton_append]
  cases front with
  | nil =>
    rw [List.nil_append,List.nil_append,components_eq,components_eq,start_slash,start_slash]
    exact congrArg (_ :: ·) (steps_append_slash [] path)
  | cons c front =>
    rw [components_append_slash (List.cons_ne_nil c front),
      components_append_slash (List.cons_ne_nil c front)]
    exact congrArg (· ++ steps path) (List.append_nil _).symm

/-- A path that is not absolute goes on where the other one ends. -/
theorem components_join {path : Text} (relative : isAbsolute path = false) (base : Text) :
    components (join base path) = components base ++ behind base path := by
  by_cases empty : base = []
  · have kept : path.dropWhile (· = '/') = path := by
      cases path with
      | nil => rfl
      | cons c rest => exact List.dropWhile_cons_of_neg (by simpa [isAbsolute] using relative)
    rw [join,relative,empty,behind,if_pos rfl,kept,components_nil,components_eq]
    rfl
  · rw [join,relative,behind,if_neg empty,List.nil_append]
    -- The slash between the two is the last of the first one, or is put there.
    by_cases ended : base.getLast? = some '/'
    · obtain ⟨front,rfl⟩ := List.getLast?_eq_some_iff.mp ended
      rw [← components_ended_append]
      simp
    · rw [← components_append_slash empty]
      simp [empty,ended]

/-- An absolute path has the components that it would have behind another one only if that is the
root. -/
theorem components_eq_behind_iff {path : Text} (absolute : isAbsolute path = true) (base : Text) :
    components path = components base ++ behind base path ↔ components base = [.root] := by
  rw [components_absolute absolute,behind,← List.append_assoc,List.append_cancel_right_eq]
  by_cases empty : base = []
  · rw [empty,if_pos rfl,components_nil,List.nil_append]
    simpa using (start_ne_root (isAbsolute_dropWhile path)).symm
  · rw [if_neg empty,List.append_nil,eq_comm]

end Path

namespace Settings

theorem parse_ruleFiles {home : Option Text} {contents value : Text} {entries : List Text}
    (last : LastGives (Text.lines contents) "rules".toList value) (lists : Lists value entries) :
    (parse home contents).ruleFiles = entries.map (expandHome home) := by
  rw [parse_eq,lastValue?_eq_some_iff.mpr last,lists_iff.mp lists]
  rfl

end Settings

namespace CommandLine

open Settings

/-- An entry `~/rest` of the line that counts leads to `rest` in the home directory, and so to a path
that begins with that of the home directory, unless `rest` is an absolute path. Such a path stays what
it is. -/
theorem ruleFiles_below_home {s : Surroundings Id} {home contents value rest : Text}
    {entries : List Text} {i : Nat} (configured : s.Configured home contents)
    (last : LastGives (Text.lines contents) "rules".toList value) (lists : Lists value entries)
    (entry : entries[i]? = some ('~' :: '/' :: rest)) :
    ∃ path, s.settings.ruleFiles[i]? = some path ∧
      (Path.components path = Path.components home ++ Path.behind home rest ↔
        Path.isAbsolute rest = false ∨ Path.components home = [.root]) ∧
      (Path.components home <+: Path.components path ↔
        Path.isAbsolute rest = false ∨ Path.components home <+: Path.components rest) ∧
      (Path.isAbsolute rest = true → path = rest) := by
  refine ⟨Path.join home rest,?_,?_⟩
  · rw [settings_of_configured configured,parse_ruleFiles last lists,List.getElem?_map,entry]
    rfl
  · cases absolute : Path.isAbsolute rest with
    | false =>
      have leads := Path.components_join absolute home
      simp [leads]
    | true =>
      rw [Path.join_absolute absolute]
      simp [Path.components_eq_behind_iff absolute]

/-- The second of two rule files is the one in the home directory. -/
theorem ruleFiles_below_home_second :
    ∃ path, (Surroundings.keeping "rules=a,~/b".toList).settings.ruleFiles[1]? = some path ∧
      Path.components path = [.name ['h'],.name ['b']] := by
  have only : Text.lines "rules=a,~/b".toList = [rulesLine] := by decide
  have lists : Lists "a,~/b".toList [['a'],['~','/','b']] := lists_iff.mpr (by decide +kernel)
  have second : [['a'],['~','/','b']][1]? = some ('~' :: '/' :: ['b']) := rfl
  have last : LastGives (Text.lines "rules=a,~/b".toList) "rules".toList "a,~/b".toList :=
    only ▸ rulesLine_gives.last []
  obtain ⟨path,isFile,below,-,-⟩ :=
    ruleFiles_below_home (Surroundings.configured_keeping _) last lists second
  exact ⟨path,isFile,below.mpr (.inl rfl)⟩

def slashesLine : Text := "rules".toList ++ '=' :: "~//etc/x.toml".toList

theorem slashesLine_gives : Gives slashesLine "rules".toList "~//etc/x.toml".toList :=
  gives_ascii (by decide +kernel)

/-- Its entry leads to a file that is not in the home directory. -/
theorem ruleFiles_slashes_elsewhere :
    Text.lines "rules=~//etc/x.toml".toList = [slashesLine] ∧
      Gives slashesLine "rules".toList "~//etc/x.toml".toList ∧
      Lists "~//etc/x.toml".toList ['~' :: '/' :: "/etc/x.toml".toList] ∧
      (Surroundings.keeping "rules=~//etc/x.toml".toList).settings.ruleFiles =
        ["/etc/x.toml".toList] ∧
      ¬ Path.components ['h'] <+: Path.components "/etc/x.toml".toList := by
  have only : Text.lines "rules=~//etc/x.toml".toList = [slashesLine] := by decide
  have lists : Lists "~//etc/x.toml".toList ['~' :: '/' :: "/etc/x.toml".toList] :=
    lists_iff.mpr (by decide +kernel)
  have last : LastGives (Text.lines "rules=~//etc/x.toml".toList) "rules".toList
      "~//etc/x.toml".toList := only ▸ slashesLine_gives.last []
  refine ⟨only,slashesLine_gives,lists,?_,by decide⟩
  rw [settings_of_configured (Surroundings.configured_keeping _),parse_ruleFiles last lists]
  rfl

end CommandLine

end Highlighting
