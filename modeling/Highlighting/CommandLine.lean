import Highlighting.Registry
import Highlighting.Settings

/-!
The command line program.

A run reads files and the standard input through its `Surroundings`, which may live in any
monad, and ends with a report of what it prints. It prints nothing unless it succeeds.
-/
namespace Highlighting.CommandLine

structure Options where
  language : Option Text := none
  ruleFiles : List Text := []
  format : Option Format := none
  list : Bool := false
  help : Bool := false
  version : Bool := false
  file : Option Text := none
  deriving DecidableEq, Repr

def standardInput : Text := "-".toList

def formatNamed (name : Text) : Except Problem Format :=
  match Format.ofName? name with
  | some format => .ok format
  | none => .error (.unknownFormat name)

inductive Flag where
  | help
  | version
  | list
  | language
  | rules
  | format
  | unknown
  | file
  deriving DecidableEq, Repr

def Flag.ofArgument (argument : Text) : Flag :=
  match String.ofList argument with
  | "-h" | "--help" => help
  | "-V" | "--version" => version
  | "-L" | "--list" => list
  | "-l" | "--lang" => language
  | "-r" | "--rules" => rules
  | "-f" | "--format" => format
  | _ =>
    if argument.head? = some '-' ∧ argument ≠ standardInput then unknown else file

/-- Reads arguments from left to right. A flag that takes a value takes the next argument,
whatever it looks like. -/
def Options.read (options : Options) : List Text → Except Problem Options
  | [] => .ok options
  | argument :: rest =>
    match Flag.ofArgument argument, rest with
    | .help, rest => read { options with help := true } rest
    | .version, rest => read { options with version := true } rest
    | .list, rest => read { options with list := true } rest
    | .language, value :: rest => read { options with language := some value } rest
    | .rules, value :: rest =>
      read { options with ruleFiles := options.ruleFiles ++ [value] } rest
    | .format, value :: rest =>
      match formatNamed value with
      | .ok format => read { options with format := some format } rest
      | .error problem => .error problem
    | .language, [] => .error (.missingValue argument)
    | .rules, [] => .error (.missingValue argument)
    | .format, [] => .error (.missingValue argument)
    | .unknown, _ => .error (.unknownOption argument)
    | .file, rest =>
      if options.file.isSome then .error .secondFile
      else read { options with file := some argument } rest

def Options.parse (arguments : List Text) : Except Problem Options := Options.read {} arguments

structure Surroundings (m : Type → Type) where
  home : Option Text
  readFile : Text → m (Except FileError Text)
  readInput : m (Except FileError Text)

structure Report where
  code : Nat
  output : Text
  errors : Text
  deriving DecidableEq, Repr

namespace Report

def success (output : Text) : Report := ⟨0, output, []⟩

def failure [Libraries] (problem : Problem) : Report :=
  ⟨1, [], "Error: ".toList ++ problem.message ++ ['\n']⟩

end Report

def versionNumber : String := "0.1.0"

def usage : Text :=
  ("hilite " ++ versionNumber ++ " - ordered regex-rule syntax highlighter\n\n" ++
  "Usage: hilite [OPTIONS] [FILE]\n\n" ++
  "Reads FILE (or stdin when omitted or '-') and writes highlighted text to stdout.\n\n" ++
  "Options:\n" ++
  "  -l, --lang NAME      Language to use (default: by extension, then config, then Austral)\n" ++
  "  -r, --rules FILE     Load a TOML language definition (repeatable)\n" ++
  "  -f, --format FMT     Output format: html, ansi, plain (default: html)\n" ++
  "  -L, --list           List available languages\n" ++
  "  -h, --help           Show this help message\n" ++
  "  -V, --version        Show version information\n\n" ++
  "Settings are read from ~/.hilite.conf (format, language, rules).\n").toList

section

variable {m : Type → Type} [Monad m]

/-- The settings of the user; a file that cannot be read counts as empty. -/
def Surroundings.settings (s : Surroundings m) : m Settings :=
  match Settings.path? s.home with
  | none => pure {}
  | some path => do
    match ← s.readFile path with
    | .ok contents => pure (.parse s.home contents)
    | .error _ => pure {}

def Surroundings.loadAll [Libraries] (s : Surroundings m) :
    Registry → List Text → m (Except Problem Registry)
  | registry, [] => pure (.ok registry)
  | registry, path :: paths => do
    match ← s.readFile path with
    | .error cause => pure (.error (.unreadable cause))
    | .ok source =>
      match registry.addSource path source with
      | .error problem => pure (.error problem)
      | .ok (_, registry) => loadAll s registry paths

def Surroundings.text (s : Surroundings m) (options : Options) : m (Except FileError Text) :=
  match options.file with
  | some path => if path = standardInput then s.readInput else s.readFile path
  | none => s.readInput

/-- The language to use: the one asked for, or that of the file's extension, or that of the
settings, or Austral. -/
def selectLanguage (registry : Registry) (options : Options) (settings : Settings) :
    Except Problem Language :=
  match options.language with
  | some name => registry.require name
  | none =>
    match options.file.bind registry.detect? with
    | some language => .ok language
    | none => registry.require (settings.language.getD Austral.name)

def listing (registry : Registry) : Text := registry.names.flatMap (· ++ ['\n'])

def highlightReport [Libraries] (registry : Registry) (options : Options) (settings : Settings)
    (text : Text) : Except ScanFault Report :=
  match selectLanguage registry options settings with
  | .error problem => .ok (.failure problem)
  | .ok language =>
    (language.highlight (options.format.getD settings.format) text).map .success

/-- A whole run. There is no report only if a rule cannot divide the text. -/
def run [Libraries] (s : Surroundings m) (arguments : List Text) : m (Except ScanFault Report) :=
  match Options.parse arguments with
  | .error problem => pure (.ok (.failure problem))
  | .ok options =>
    if options.help then pure (.ok (.success usage))
    else if options.version then
      pure (.ok (.success ("hilite ".toList ++ versionNumber.toList ++ ['\n'])))
    else do
      let settings ← s.settings
      match ← s.loadAll .standard (settings.ruleFiles ++ options.ruleFiles) with
      | .error problem => pure (.ok (.failure problem))
      | .ok registry =>
        if options.list then pure (.ok (.success (listing registry)))
        else
          match ← s.text options with
          | .error cause => pure (.ok (.failure (.unreadable cause)))
          | .ok text => pure (highlightReport registry options settings text)

end

def surroundings (home : Option Text) (tree : FileTree) (input : ByteArray) :
    Surroundings Id where
  home := home
  readFile := fun path => tree.read path
  readInput := decodeText input

end Highlighting.CommandLine
