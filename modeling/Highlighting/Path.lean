import Highlighting.Text.Blank

/-!
Paths of files.

A path is text in which slashes separate names. `components` is its meaning: empty names and
dots inside a path do not count.
-/
namespace Highlighting.Path

/-- A dot is a step only at the start of a path. -/
inductive Component where
  | root
  | here
  | parent
  | name (name : Text)
  deriving DecidableEq, Repr

def isAbsolute (path : Text) : Bool := path.head? == some '/'

/-- The step that a name stands for, anywhere but at the start of a path. -/
def step? (name : Text) : Option Component :=
  match name with
  | [] => none
  | ['.'] => none
  | ['.', '.'] => some .parent
  | name => some (.name name)

def components (path : Text) : List Component :=
  let names := Text.splitOn '/' path
  let start := match names.head? with
    | some [] => if isAbsolute path then [.root] else []
    | some ['.'] => [.here]
    | _ => []
  start ++ names.filterMap step?

/-- A path that is meant relative to another one. An absolute path stays what it is. -/
def join (base path : Text) : Text :=
  if isAbsolute path then path
  else if base.isEmpty || base.getLast? == some '/' then base ++ path
  else base ++ '/' :: path

def fileName? (path : Text) : Option Text :=
  match (components path).getLast? with
  | some (.name name) => some name
  | _ => none

/-- What follows the last dot of the name at the end of a path. A dot at the start of the name
does not count. -/
def extension? (path : Text) : Option Text := do
  let name ← fileName? path
  match (Text.splitOn '.' name).reverse with
  | [] => none
  | [_] => none
  | [extension, stem] => if stem.isEmpty then none else some extension
  | extension :: _ => some extension

end Highlighting.Path
