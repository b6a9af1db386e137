import Highlighting.Pattern.Regular.Flags
import Highlighting.Unicode.Named

/-!
Escapes: what a backslash and the characters after it stand for.

Every function reads the text behind what it has recognised so far and hands back the text that
it leaves; no answer means that the pattern is refused.
-/
namespace Highlighting.Pattern

inductive Atom where
  | char (c : Char)
  | set (s : CharSet)
  | look (condition : Look)

namespace Escape

def hexDigits? (flags : Flags) : Nat → Text → Option (Text × Text)
  | 0, s => some ([], s)
  | count + 1, c :: rest =>
    if Digits.isHex c then
      (hexDigits? flags count (flags.skip rest)).map fun (digits, left) => (c :: digits, left)
    else none
  | _ + 1, [] => none

def hex? (flags : Flags) (count : Nat) (s : Text) : Option (Atom × Text) := do
  match ← flags.skipTo? s with
  | '\x7b' :: rest =>
    let (digits, left) := flags.span Digits.isHex (flags.skip rest)
    match left with
    | '\x7d' :: left =>
      if digits.isEmpty then none
      else some (.char (← Digits.scalar? (Digits.value 16 digits)), flags.skip left)
    | _ => none
  | rest =>
    let (digits, left) ← hexDigits? flags count rest
    let n := Digits.value 16 digits
    if !flags.unicode && n ≥ 0x80 && count == 2 then none
    else some (.char (← Digits.scalar? n), left)

def splitAtMark? (mark : Text) : Text → Option (Text × Text)
  | [] => none
  | c :: rest =>
    if mark.isPrefixOf (c :: rest) then some ([], (c :: rest).drop mark.length)
    else (splitAtMark? mark rest).map fun (a, b) => (c :: a, b)

/-- A class named by a Unicode property, with whether the name asks for the complement. -/
def propertyNamed? (name : Text) : Option (Bool × List Unicode.Runs) :=
  match splitAtMark? ['!', '='] name with
  | some (property, wanted) =>
    (Unicode.Named.lookupValue? property wanted).map fun tables => (true, tables)
  | none =>
    match splitAtMark? [':'] name <|> splitAtMark? ['='] name with
    | some (property, wanted) =>
      (Unicode.Named.lookupValue? property wanted).map fun tables => (false, tables)
    | none => (Unicode.Named.lookup? name).map fun tables => (false, tables)

def property? (flags : Flags) (negated : Bool) (s : Text) : Option (Atom × Text) := do
  let (name, left) ← match ← flags.skipTo? s with
    | '\x7b' :: rest =>
      let (name, left) := flags.span (· != '\x7d') (flags.skip rest)
      match left with
      | _ :: left => some (name, left)
      | [] => none
    | '\\' :: _ => none
    | c :: rest => some ([c], flags.skip rest)
    | [] => none
  if !flags.unicode then none
  else
    let (complement, tables) ← propertyNamed? name
    let s ← flags.negate? (negated != complement) (flags.closeCase (.ofRuns tables))
    some (.set s, left)

def shorthand? (flags : Flags) (c : Char) : Option CharSet :=
  let pick (wide ascii : CharSet) := if flags.unicode then wide else ascii
  match c with
  | 'd' => some (pick .digit .asciiDigit)
  | 's' => some (pick .blank .asciiBlank)
  | 'w' => some flags.wordSet
  | 'D' => flags.negate? true (pick .digit .asciiDigit)
  | 'S' => flags.negate? true (pick .blank .asciiBlank)
  | 'W' => flags.negate? true flags.wordSet
  | _ => none

/-- Punctuation may be escaped, whether or not it has a meaning of its own. -/
def isPunctuation (c : Char) : Bool :=
  c.toNat < 0x80 && !c.isAlphanum && c != '<' && c != '>'

/-- After `\b`: the kind of word edge that stands in braces, if a name stands there at all. -/
def wordEdge? (flags : Flags) (s : Text) : Option (WordEdge × Text) :=
  let isNameChar := fun (c : Char) => c.isAlpha || c == '-'
  match s with
  | '\x7b' :: rest =>
    match flags.skip rest with
    | [] => none
    | c :: more =>
      if !isNameChar c then some (.boundary, s)
      else
        let (name, left) := flags.span isNameChar (c :: more)
        match left with
        | '\x7d' :: left =>
          match String.ofList name with
          | "start" => some (.start, left)
          | "end" => some (.stop, left)
          | "start-half" => some (.startHalf, left)
          | "end-half" => some (.stopHalf, left)
          | _ => none
        | _ => none
  | _ => some (.boundary, s)

def control? (c : Char) : Option Char :=
  match c with
  | 'a' => some '\x07'
  | 'f' => some '\x0c'
  | 't' => some '\t'
  | 'n' => some '\n'
  | 'r' => some '\r'
  | 'v' => some '\x0b'
  | _ => none

def parse? (flags : Flags) : Text → Option (Atom × Text)
  | [] => none
  | c :: rest =>
    match c with
    | 'x' => hex? flags 2 rest
    | 'u' => hex? flags 4 rest
    | 'U' => hex? flags 8 rest
    | 'p' => property? flags false rest
    | 'P' => property? flags true rest
    | 'A' => some (.look .textStart, rest)
    | 'z' => some (.look .textEnd, rest)
    | 'b' => (wordEdge? flags rest).map fun (edge, left) =>
        (.look (.word flags.wordSet edge), left)
    | 'B' => some (.look (.word flags.wordSet .noBoundary), rest)
    | '<' => some (.look (.word flags.wordSet .start), rest)
    | '>' => some (.look (.word flags.wordSet .stop), rest)
    | c =>
      if "dswDSW".toList.contains c then (shorthand? flags c).map fun s => (.set s, rest)
      else if isPunctuation c then some (.char c, rest)
      else (control? c).map fun c => (.char c, rest)

end Escape

end Highlighting.Pattern
