import Highlighting.Toml.Quotation
import Highlighting.Toml.Scalar

/-!
Documents of TOML.

A document is read line by line: a line is empty, gives a key a value in the table opened last,
or opens a table. No key may be given twice.
-/
namespace Highlighting.Toml

def dropComment (s : Text) : Text :=
  match s with
  | '#' :: rest => rest.dropWhile isVisible
  | s => s

/-- Passes over blanks, comments and line ends, as they may stand between the items of an
array. A comment must end with its line. -/
def dropBlankLines? : Nat → Text → Option Text
  | 0, s => some s
  | fuel + 1, s =>
    let s := dropSpaces s
    match newline? (dropComment s) with
    | some rest => dropBlankLines? fuel rest
    | none => if s.head? = some '#' then none else some s

def isBareKeyChar (c : Char) : Bool := c.isAlphanum || c == '_' || c == '-'

def keyPart? (s : Text) : Option (Text × Text) :=
  match s with
  | '"' :: rest => Quotation.basic? (rest.length + 1) rest
  | '\'' :: rest => Quotation.literal? rest
  | s =>
    let key := s.takeWhile isBareKeyChar
    if key.isEmpty then none else some (key, s.dropWhile isBareKeyChar)

/-- How deep values may nest, and how many parts a key may have. -/
def maxDepth : Nat := 79

def key? : Nat → Text → Option (List Text × Text × Text)
  | 0, _ => none
  | fuel + 1, s => do
    let (part, s) ← keyPart? (dropSpaces s)
    match dropSpaces s with
    | '.' :: rest => (key? fuel rest).map fun (path, last, left) => (part :: path, last, left)
    | s => some ([], part, s)

mutual

def value? : Nat → Nat → Text → Option (Toml × Text)
  | 0, _, _ => none
  | fuel + 1, depth, s =>
    match s with
    | '"' :: _ => (Quotation.parse? s).map fun (s, left) => (.string s, left)
    | '\'' :: _ => (Quotation.parse? s).map fun (s, left) => (.string s, left)
    | '[' :: rest =>
      if depth = 0 then none
      else (items? fuel (depth - 1) rest).map fun (items, left) => (.array items, left)
    | '\x7b' :: rest =>
      if depth = 0 then none
      else
        match dropSpaces rest with
        | '\x7d' :: left => some (.table .braced [], left)
        | rest =>
          (pairs? fuel (depth - 1) [] rest).map fun (entries, left) =>
            (.table .braced entries, left)
    | s => Scalar.parse? s

def items? : Nat → Nat → Text → Option (List Toml × Text)
  | 0, _, _ => none
  | fuel + 1, depth, s => do
    match ← dropBlankLines? (s.length + 1) s with
    | ']' :: left => some ([], left)
    | s =>
      let (item, s) ← value? fuel depth s
      match ← dropBlankLines? (s.length + 1) s with
      | ',' :: rest => (items? fuel depth rest).map fun (items, left) => (item :: items, left)
      | ']' :: left => some ([item], left)
      | _ => none

def pairs? : Nat → Nat → Entries → Text → Option (Entries × Text)
  | 0, _, _, _ => none
  | fuel + 1, depth, entries, s => do
    let (path, last, s) ← key? maxDepth s
    let s ← Scalar.expect? '=' s
    let (value, s) ← value? fuel depth (dropSpaces s)
    let entries ← addDotted? last value path entries
    match dropSpaces s with
    | ',' :: rest => pairs? fuel depth entries rest
    | '\x7d' :: left => some (entries, left)
    | _ => none

end

def endLine? (s : Text) : Option Text :=
  match dropComment (dropSpaces s) with
  | [] => some []
  | s => newline? s

/-- A document as far as it has been read: everything in closed tables, and the table that is
open, with the path of its header, which may be one of several under that path. -/
structure Reading where
  closed : Toml := .table .opened []
  entries : Entries := []
  path : List Text := []
  several : Bool := false

namespace Reading

def parent (path : List Text) : List Text := path.dropLast

def close? (r : Reading) : Option Toml :=
  let opened := Toml.table .opened r.entries
  match r.path.getLast? with
  | none => some opened
  | some last =>
    changeUnder? (fun kind entries =>
      if r.several then
        match Table.get? entries last with
        | some (.tables elements) =>
          some (.table kind (Table.put entries last (.tables (elements ++ [opened]))))
        | _ => none
      else some (.table kind (Table.put entries last opened))) (parent r.path) r.closed

/-- Opens the table of a header in single brackets. It is new, or was implied before. -/
def openTable? (r : Reading) (path : List Text) (last : Text) : Option Reading := do
  let document ← r.close?
  let place := path ++ [last]
  let whole ← changeUnder? (fun kind entries =>
    match Table.get? entries last with
    | none => some (.table kind entries)
    | some (.table .implied _) => some (.table kind entries)
    | _ => none) path document
  some { closed := whole, entries := (look? place whole).getD [], path := place }
where
  look? : List Text → Toml → Option Entries
    | [], .table _ entries => some entries
    | key :: path, .table _ entries =>
      match Table.get? entries key with
      | some (.tables elements) => elements.getLast?.bind fun last => look? path last
      | some inner => look? path inner
      | none => none
    | _, _ => none

def openAnother? (r : Reading) (path : List Text) (last : Text) : Option Reading := do
  let document ← r.close?
  let whole ← changeUnder? (fun kind entries =>
    match Table.get? entries last with
    | none => some (.table kind (Table.put entries last (.tables [])))
    | some (.tables _) => some (.table kind entries)
    | _ => none) path document
  some { closed := whole, path := path ++ [last], several := true }

end Reading

def line? (r : Reading) (s : Text) : Option (Reading × Text) := do
  match dropSpaces s with
  | [] => some (r, [])
  | '[' :: '[' :: rest =>
    let (path, last, s) ← key? maxDepth rest
    let s ← Scalar.expect? ']' s
    let s ← Scalar.expect? ']' s
    some (← r.openAnother? path last, ← endLine? s)
  | '[' :: rest =>
    let (path, last, s) ← key? maxDepth rest
    let s ← Scalar.expect? ']' s
    some (← r.openTable? path last, ← endLine? s)
  | s =>
    match endLine? s with
    | some rest => some (r, rest)
    | none =>
      let (path, last, s) ← key? maxDepth s
      let s := dropSpaces (← Scalar.expect? '=' s)
      let (value, s) ← value? (2 * s.length + 2) maxDepth s
      some ({ r with entries := ← addDotted? last value path r.entries }, ← endLine? s)

def lines? : Nat → Reading → Text → Option Reading
  | 0, _, _ => none
  | _ + 1, r, [] => some r
  | fuel + 1, r, s => (line? r s).bind fun (r, rest) => lines? fuel r rest

/-- The table that a document describes. A byte order mark in front is no part of it. -/
def parse? (source : Text) : Option Entries := do
  let s := match source with
    | '\uFEFF' :: rest => rest
    | s => s
  match ← (← lines? (s.length + 1) {} s).close? with
  | .table _ entries => some entries
  | _ => none

end Highlighting.Toml
