import Highlighting.Text.Basic
import Highlighting.Text.Digits

/-!
Strings of TOML: in single or double quotes, on one line or between tripled quotes.

Every function reads the text behind the opening quotes and hands back the text that it leaves.
-/
namespace Highlighting.Toml

/-- Characters that may stand in a string or comment: no control characters but the tab. -/
def isVisible (c : Char) : Bool := c == '\t' || (' ' ≤ c && c != '\x7f')

def newline? : Text → Option Text
  | '\n' :: rest => some rest
  | '\r' :: '\n' :: rest => some rest
  | _ => none

def dropSpaces (s : Text) : Text := s.dropWhile fun c => c == ' ' || c == '\t'

namespace Quotation

def numbered? (count : Nat) (s : Text) : Option (Char × Text) :=
  let digits := s.take count
  if digits.length = count && digits.all Digits.isHex then
    (Digits.scalar? (Digits.value 16 digits)).map fun c => (c, s.drop count)
  else none

def escape? : Text → Option (Char × Text)
  | 'b' :: rest => some ('\x08', rest)
  | 't' :: rest => some ('\t', rest)
  | 'n' :: rest => some ('\n', rest)
  | 'f' :: rest => some ('\x0c', rest)
  | 'r' :: rest => some ('\r', rest)
  | '"' :: rest => some ('"', rest)
  | '\\' :: rest => some ('\\', rest)
  | 'u' :: rest => numbered? 4 rest
  | 'U' :: rest => numbered? 8 rest
  | _ => none

def literal? : Text → Option (Text × Text)
  | [] => none
  | c :: rest =>
    if c = '\'' then some ([], rest)
    else if isVisible c then (literal? rest).map fun (s, left) => (c :: s, left)
    else none

def basic? : Nat → Text → Option (Text × Text)
  | 0, _ => none
  | _ + 1, [] => none
  | fuel + 1, c :: rest =>
    if c = '"' then some ([], rest)
    else if c = '\\' then do
      let (c, rest) ← escape? rest
      (basic? fuel rest).map fun (s, left) => (c :: s, left)
    else if isVisible c then (basic? fuel rest).map fun (s, left) => (c :: s, left)
    else none

/-- The quotes at the end of a string between tripled quotes: up to two of them belong to the
string. The answer is how many do, or nothing if the string goes on. -/
def closing? (mark : Char) (s : Text) : Option (Nat × Text) :=
  let run := (s.takeWhile (· == mark)).length
  if run < 3 then none else some (min run 5 - 3, s.drop (min run 5))

def dropLines : Nat → Text → Text
  | 0, s => s
  | fuel + 1, s =>
    match newline? (dropSpaces s) with
    | some rest => dropLines fuel rest
    | none => dropSpaces s

/-- Text between tripled quotes. In `basic` text a backslash begins an escape, or joins lines at
the end of one. Every step reads at least one character. -/
def long? (mark : Char) (basic : Bool) : Nat → Text → Option (Text × Text)
  | 0, _ => none
  | fuel + 1, s =>
    match closing? mark s with
    | some (extra, left) => some (List.replicate extra mark, left)
    | none =>
      match newline? s, s with
      | some rest, _ => (long? mark basic fuel rest).map fun (s, left) => ('\n' :: s, left)
      | none, [] => none
      | none, c :: rest =>
        if basic && c == '\\' then
          match newline? (dropSpaces rest) with
          | some behind => long? mark basic fuel (dropLines (behind.length + 1) behind)
          | none => do
            let (c, rest) ← escape? rest
            (long? mark basic fuel rest).map fun (s, left) => (c :: s, left)
        else if isVisible c then
          (long? mark basic fuel rest).map fun (s, left) => (c :: s, left)
        else none

def parse? (s : Text) : Option (Text × Text) :=
  let long (mark : Char) (rest : Text) : Option (Text × Text) :=
    long? mark (mark == '"') (rest.length + 1) ((newline? rest).getD rest)
  match s with
  | '"' :: '"' :: '"' :: rest => long '"' rest
  | '\'' :: '\'' :: '\'' :: rest => long '\'' rest
  | '"' :: rest => basic? (rest.length + 1) rest
  | '\'' :: rest => literal? rest
  | _ => none

end Quotation

end Highlighting.Toml
