import Highlighting.Table

/-!
TOML values and the tables of a document.

Tables remember how they came about, since that decides whether they may still grow: a table
that only appeared in front of a dot can be opened by a header once, a table made by dotted keys
can only get more dotted keys, and a table written in braces is complete.
-/
namespace Highlighting

/-- How a table came about: opened by its own header, as the document itself counts, implied by the
header of a table inside it, made by dotted keys, or written in braces. -/
inductive Toml.TableKind where
  | opened
  | implied
  | dotted
  | braced
  deriving DecidableEq, Repr

/-- The `tables` are those that headers in double brackets have opened under one name. -/
inductive Toml where
  | string (s : Text)
  | integer (n : Int)
  | boolean (b : Bool)
  | float (written : Text)
  | moment (shown : Text)
  | array (items : List Toml)
  | table (kind : Toml.TableKind) (entries : List (Text × Toml))
  | tables (elements : List Toml)

namespace Toml

abbrev Entries := Table Toml

def addNew? (entries : Entries) (key : Text) (value : Toml) : Option Entries :=
  if Table.has entries key then none else some (Table.put entries key value)

def changeLast? (change : Toml → Option Toml) (elements : List Toml) : Option (List Toml) :=
  match elements.getLast? with
  | none => none
  | some last => (change last).map fun last => elements.dropLast ++ [last]

/-- Changes the table at the end of a path of headers. Tables on the way that do not exist yet
are implied; of several tables under one name the last is meant. -/
def changeUnder? (change : TableKind → Entries → Option Toml) : List Text → Toml → Option Toml
  | [], table kind entries => change kind entries
  | key :: path, table kind entries => do
    let inner ← match (Table.get? entries key).getD (table .implied []) with
      | tables elements => (changeLast? (changeUnder? change path) elements).map tables
      | table .braced _ => none
      | table kind entries => changeUnder? change path (table kind entries)
      | _ => none
    some (table kind (Table.put entries key inner))
  | _, _ => none

/-- Adds a key to the table at the end of a path of dots. The path may not lead through opened
tables, and it must end in a table that was made by dots. -/
def addDotted? (key : Text) (value : Toml) : List Text → Entries → Option Entries
  | [], entries => addNew? entries key value
  | step :: path, entries => do
    let into (kind : TableKind) (inner : Entries) : Option Toml :=
      (addDotted? key value path inner).map (table kind)
    let inner ← match Table.get? entries step with
      | none => into .dotted []
      | some (table .dotted inner) => into .dotted inner
      | some (table .implied inner) => if path.isEmpty then none else into .implied inner
      | some (tables elements) =>
        if path.isEmpty then none
        else
          (changeLast? (fun last =>
            match last with
            | table kind inner => into kind inner
            | _ => none) elements).map tables
      | _ => none
    some (Table.put entries step inner)

end Toml

end Highlighting
