import Highlighting.Unicode.CaseMap
import Highlighting.Unicode.Classes

/-!
Sets of characters, as a pattern describes them.

A set is kept as the expression that describes it and is asked about one character at a time.
-/
namespace Highlighting.Pattern

open Highlighting.Unicode

/-- In a `caseless` set are the characters that differ from a member by case alone, with the members. -/
inductive CharSet where
  | chars (cs : List Char)
  | range (lo hi : Char)
  | runs (table : Runs)
  | union (a b : CharSet)
  | inter (a b : CharSet)
  | diff (a b : CharSet)
  | symmDiff (a b : CharSet)
  | compl (a : CharSet)
  | caseless (a : CharSet)
  deriving DecidableEq

namespace CharSet

def contains : CharSet → Char → Bool
  | chars cs, c => cs.contains c
  | range lo hi, c => lo ≤ c && c ≤ hi
  | runs table, c => table.contains c.toNat
  | union a b, c => a.contains c || b.contains c
  | inter a b, c => a.contains c && b.contains c
  | diff a b, c => a.contains c && !b.contains c
  | symmDiff a b, c => a.contains c != b.contains c
  | compl a, c => !a.contains c
  | caseless a, c => (caseVariants c).any a.contains

def empty : CharSet := chars []

def any : CharSet := compl empty

def ascii : CharSet := range '\x00' '\x7f'

def unionAll (sets : List CharSet) : CharSet := sets.foldr union empty

def ofRuns (tables : List Runs) : CharSet := unionAll (tables.map runs)

def digit : CharSet := runs Category.decimalNumber

def blank : CharSet := runs Property.whiteSpace

def word : CharSet := ofRuns wordRuns

def asciiDigit : CharSet := range '0' '9'

def asciiBlank : CharSet := union (range '\t' '\r') (chars [' '])

def asciiWord : CharSet :=
  unionAll [range '0' '9', range 'A' 'Z', range 'a' 'z', chars ['_']]

def hexDigit : CharSet := unionAll [range '0' '9', range 'A' 'F', range 'a' 'f']

def asciiClass? (name : List Char) : Option CharSet :=
  match String.ofList name with
  | "alnum" => some (unionAll [range '0' '9', range 'A' 'Z', range 'a' 'z'])
  | "alpha" => some (union (range 'A' 'Z') (range 'a' 'z'))
  | "ascii" => some ascii
  | "blank" => some (chars ['\t', ' '])
  | "cntrl" => some (union (range '\x00' '\x1f') (chars ['\x7f']))
  | "digit" => some asciiDigit
  | "graph" => some (range '!' '~')
  | "lower" => some (range 'a' 'z')
  | "print" => some (range ' ' '~')
  | "punct" =>
    some (unionAll [range '!' '/', range ':' '@', range '[' '\x60', range '\x7b' '~'])
  | "space" => some asciiBlank
  | "upper" => some (range 'A' 'Z')
  | "word" => some asciiWord
  | "xdigit" => some hexDigit
  | _ => none

end CharSet

end Highlighting.Pattern
