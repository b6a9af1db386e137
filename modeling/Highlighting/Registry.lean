import Highlighting.Austral

/-!
Registries of languages.

A language is known by its name in lower case, and an extension leads to the language that
claimed it last. A language replaces an earlier one of the same name together with the
extensions that the earlier one held.
-/
namespace Highlighting

/-- Languages stand under their names, and the keys of languages under extensions, all in lower
case. -/
structure Registry where
  languages : Table Language := []
  extensions : Table Text := []

namespace Registry

def empty : Registry := {}

def add (r : Registry) (l : Language) : Registry :=
  let key := Text.lower l.name
  let kept :=
    if Table.has r.languages key then r.extensions.filter (·.2 != key) else r.extensions
  { languages := Table.put r.languages key l
    extensions := l.extensions.foldl (fun t e => Table.put t (Text.lower e) key) kept }

def withPalette [Libraries] (palette : Palette) : Except Problem Registry :=
  (Austral.language palette).map empty.add

def standard [Libraries] : Registry :=
  match withPalette .standard with
  | .ok r => r
  | .error _ => empty

theorem standard_eq_add [Libraries] {austral : Language}
    (only : Austral.language .standard = .ok austral) :
    standard = empty.add austral := by
  have built : withPalette .standard = .ok (empty.add austral) := by
    rw [withPalette, only]
    rfl
  -- Not by `unfold`, whose equation evaluates the registry.
  delta standard
  rw [built]

/-- The language of a name; case does not matter. -/
def get? (r : Registry) (name : Text) : Option Language :=
  Table.get? r.languages (Text.lower name)

def require (r : Registry) (name : Text) : Except Problem Language :=
  match r.get? name with
  | some l => .ok l
  | none => .error (.unknownLanguage name)

def detect? (r : Registry) (path : Text) : Option Language := do
  let extension ← Path.extension? path
  let key ← Table.get? r.extensions (Text.lower extension)
  Table.get? r.languages key

/-- The names of all languages in ascending order. -/
def names (r : Registry) : List Text :=
  (r.languages.map (·.2.name)).mergeSort Text.precedes

def addSource [Libraries] (r : Registry) (path source : Text) : Except Problem (Text × Registry) :=
  match Language.parse source with
  | .ok l => .ok (l.name, r.add l)
  | .error problem => .error (.within path problem)

/-- Adds the language of the rule file at a path; the answer also tells its name. -/
def load [Libraries] (r : Registry) (read : Text → Except FileError Text) (path : Text) :
    Except Problem (Text × Registry) :=
  match read path with
  | .ok source => r.addSource path source
  | .error cause => .error (.unreadable cause)

end Registry

end Highlighting
