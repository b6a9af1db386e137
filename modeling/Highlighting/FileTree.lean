import Highlighting.Path
import Highlighting.Table

/-!
Trees of files, and what can go wrong when one of them is read.

A tree is given by its regular files. A directory exists if a file lies below it, and the
directory in which paths begin always exists.
-/
namespace Highlighting

/-- Why a text cannot be read. `notDirectory` is the name of a regular file on the way, or before a
slash at the end, and `notText` are bytes that are no UTF-8. -/
inductive FileError where
  | missing
  | notDirectory
  | isDirectory
  | notText
  | refused (reason : Text)
  deriving DecidableEq, Repr

namespace FileError

def message : FileError → Text
  | missing => "No such file or directory (os error 2)".toList
  | notDirectory => "Not a directory (os error 20)".toList
  | isDirectory => "Is a directory (os error 21)".toList
  | notText => "stream did not contain valid UTF-8".toList
  | refused reason => reason

end FileError

def decodeText (bytes : ByteArray) : Except FileError Text :=
  match String.fromUTF8? bytes with
  | some s => .ok s.toList
  | none => .error .notText

theorem decodeText_eq_ok_iff {bytes : ByteArray} {text : Text} :
    decodeText bytes = .ok text ↔ bytes = (String.ofList text).toUTF8 := by
  rw [decodeText, String.fromUTF8?]
  by_cases valid : bytes.IsValidUTF8
  · rw [dif_pos valid]
    simp only [Except.ok.injEq]
    constructor
    · rintro rfl
      rw [String.ofList_toList]
      rfl
    · rintro rfl
      exact String.toList_ofList
  · rw [dif_neg valid]
    simp only [reduceCtorEq, false_iff]
    rintro rfl
    exact valid (String.ofList text).isValidUTF8

/-- The contents of all files under the names that lead to them. -/
structure FileTree where
  files : List (List Text × ByteArray) := []

namespace FileTree

inductive Spot where
  | directory (names : List Text)
  | file (content : ByteArray)
  | outside

def spot? (tree : FileTree) (names : List Text) : Option Spot :=
  match tree.files.lookup names with
  | some content => some (.file content)
  | none =>
    if names.isEmpty || tree.files.any fun entry => names.isPrefixOf entry.1 then
      some (.directory names)
    else none

def advance (tree : FileTree) (spot : Spot) (name : Text) : Except FileError Spot :=
  match spot with
  | .file _ => .error .notDirectory
  | .outside =>
    if name.isEmpty || name = ['.'] || name = ['.', '.'] then .ok .outside else .error .missing
  | .directory names =>
    if name.isEmpty || name = ['.'] then .ok spot
    else if name = ['.', '.'] then
      .ok (if names.isEmpty then .outside else .directory names.dropLast)
    else
      match tree.spot? (names ++ [name]) with
      | some next => .ok next
      | none => .error .missing

/-- The spot to which a path leads. Only relative paths lead into the tree. -/
def walk (tree : FileTree) (path : Text) : Except FileError Spot :=
  if path.isEmpty then .error .missing
  else
    (Text.splitOn '/' path).foldlM tree.advance
      (if Path.isAbsolute path then .outside else .directory [])

def read (tree : FileTree) (path : Text) : Except FileError Text := do
  match ← tree.walk path with
  | .file content => decodeText content
  | .directory _ => .error .isDirectory
  | .outside => .error .isDirectory

def write (tree : FileTree) (path : Text) (content : ByteArray) : FileTree :=
  let names := (Path.components path).filterMap fun
    | .name name => some name
    | _ => none
  ⟨(names, content) :: tree.files.filter (·.1 != names)⟩

end FileTree

end Highlighting
