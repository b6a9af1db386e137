import Highlighting.Output
import Highlighting.Path
import Highlighting.Table

/-!
Settings of the user.

A settings file gives keys their values, one on a line. Blank lines, comments, and lines without
an equals sign do not count; of several values for one key only the last one does. Where that one
makes no sense, the setting is what it is by default.
-/
namespace Highlighting

structure Settings where
  format : Format := .html
  language : Option Text := none
  ruleFiles : List Text := []
  deriving DecidableEq, Repr

namespace Settings

def assignment? (line : Text) : Option (Text × Text) :=
  let line := Text.trim line
  if line.isEmpty || line.head? == some '#' then none
  else
    (Text.splitOnce? '=' line).map fun (key, value) =>
      (Text.lower (Text.trim key), Text.trim value)

/-- The last value of every key. -/
def table (contents : Text) : Table Text :=
  (Text.lines contents).foldl
    (fun t line =>
      match assignment? line with
      | some (key, value) => Table.put t key value
      | none => t) []

/-- Replaces a leading `~/` by the home directory, if there is one. -/
def expandHome (home : Option Text) (path : Text) : Text :=
  match path, home with
  | '~' :: '/' :: rest, some home => Path.join home rest
  | path, _ => path

def paths (home : Option Text) (value : Text) : List Text :=
  (((Text.splitOn ',' value).map Text.trim).filter (!·.isEmpty)).map (expandHome home)

def ofTable (home : Option Text) (t : Table Text) : Settings where
  format := ((Table.get? t "format".toList).bind Format.ofName?).getD .html
  language := (Table.get? t "language".toList).filter (!·.isEmpty)
  ruleFiles := ((Table.get? t "rules".toList).map (paths home)).getD []

def parse (home : Option Text) (contents : Text) : Settings := ofTable home (table contents)

def path? (home : Option Text) : Option Text := home.map (Path.join · ".hilite.conf".toList)

end Settings

end Highlighting
