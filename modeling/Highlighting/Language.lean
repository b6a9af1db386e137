import Highlighting.Output
import Highlighting.Problem
import Highlighting.Toml.Document

/-!
Languages: a name, the file extensions that it claims, and its rules in order of priority.

A language can be read from a rule file, which is a document of TOML. The color of a rule there
is a key of the table `colors`, or stands for itself.
-/
namespace Highlighting

structure Language where
  name : Text
  extensions : List Text := []
  rules : List Rule := []

namespace Language

/-- Adds an extension; dots in front of it are dropped. -/
def addExtension (l : Language) (extension : Text) : Language :=
  { l with extensions := l.extensions ++ [extension.dropWhile (· == '.')] }

def addRule (l : Language) (rule : Rule) : Language := { l with rules := l.rules ++ [rule] }

def highlight (l : Language) (format : Format) (text : Text) : Except ScanFault Text :=
  Highlighting.highlight format l.rules text

end Language

structure RuleEntry where
  name : Option Text
  pattern : Text
  color : Text
  deriving DecidableEq, Repr

structure RuleFile where
  name : Text
  extensions : List Text
  colors : Table Text
  rules : List RuleEntry
  deriving DecidableEq, Repr

namespace Toml

def string? : Toml → Option Text
  | string s => some s
  | _ => none

def list? : Toml → Option (List Toml)
  | array items => some items
  | tables elements => some elements
  | _ => none

/-- A table of texts. A date or a time counts as one, with itself under a key of its own. -/
def texts? : Toml → Option (Table Text)
  | table _ entries => entries.mapM fun (key, v) => v.string?.map (key, ·)
  | moment shown => some [("$__toml_private_datetime".toList, shown)]
  | _ => none

/-- The value under a key that may be missing. -/
def field {α : Type} (entries : Entries) (key : String) (read : Toml → Option α) (absent : α) :
    Option α :=
  match Table.get? entries key.toList with
  | some value => read value
  | none => some absent

end Toml

namespace RuleEntry

/-- A rule is a table, or an array of its name, pattern and color. Other keys and further items
do not matter. -/
def ofToml? : Toml → Option RuleEntry
  | .table _ entries => do
    let name ← Toml.field entries "name" (fun v => v.string?.map some) none
    let pattern ← (← Table.get? entries "pattern".toList).string?
    let color ← (← Table.get? entries "color".toList).string?
    some ⟨name, pattern, color⟩
  | .array (name :: pattern :: color :: _) => do
    some ⟨some (← name.string?), ← pattern.string?, ← color.string?⟩
  | _ => none

/-- The name of the rule, or one made from the language and the place of the rule in it. -/
def title (entry : RuleEntry) (language : Text) (position : Nat) : Text :=
  match entry.name with
  | some (c :: rest) => c :: rest
  | _ => language ++ " rule #".toList ++ Digits.decimal position

end RuleEntry

namespace RuleFile

def ofToml? (entries : Toml.Entries) : Option RuleFile := do
  let name ← (← Table.get? entries "name".toList).string?
  let extensions ←
    Toml.field entries "extensions" (fun v => v.list?.bind (·.mapM Toml.string?)) []
  let colors ← Toml.field entries "colors" Toml.texts? []
  let rules ← Toml.field entries "rules" (fun v => v.list?.bind (·.mapM RuleEntry.ofToml?)) []
  some ⟨name, extensions, colors, rules⟩

def parse? (source : Text) : Option RuleFile := (Toml.parse? source).bind ofToml?

def color (file : RuleFile) (wanted : Text) : Text := (Table.get? file.colors wanted).getD wanted

def compileRules [Libraries] (file : RuleFile) : Nat → List RuleEntry → Except Problem (List Rule)
  | _, [] => .ok []
  | position, entry :: rest =>
    match
      Rule.compile? (entry.title file.name position) entry.pattern (file.color entry.color)
    with
    | none => .error (.invalidPattern entry.pattern)
    | some rule => (compileRules file (position + 1) rest).map (rule :: ·)

def language [Libraries] (file : RuleFile) : Except Problem Language :=
  if (Text.trim file.name).isEmpty then .error .namelessLanguage
  else
    (compileRules file 1 file.rules).map fun rules =>
      let named : Language := { name := file.name, rules }
      file.extensions.foldl Language.addExtension named

end RuleFile

namespace Language

def parse [Libraries] (source : Text) : Except Problem Language :=
  match RuleFile.parse? source with
  | none => .error (.malformedRules source)
  | some file => file.language

end Language

end Highlighting
