import Highlighting.Pattern.Regular.Automaton
import Highlighting.Pattern.Regular.Bracket

/-!
The grammar of regular patterns.

Reading keeps the parts of the branch that is being read, the branches before it, and a stack of
the groups around it. Flags that are set inside a group hold up to its end, in later branches
too. A pattern may nest at most `maxDepth` levels, where every group, quantifier, sequence,
alternation and class counts.
-/
namespace Highlighting.Pattern.Regular

/-- A part of a branch, with the depth of the nesting in which it was written. -/
structure Part where
  tree : Regular
  depth : Nat
  repeatable : Bool := true

namespace Part

/-- The parts of one branch, given last first. -/
def sequence : List Part → Part
  | [] => ⟨.empty, 0, true⟩
  | [only] => only
  | parts =>
    ⟨.row (parts.reverse.map (·.tree)), 1 + (parts.map (·.depth)).foldl max 0, true⟩

def alternation : List Part → Part
  | [] => ⟨.empty, 0, true⟩
  | [only] => only
  | parts =>
    ⟨.ofBranches (parts.reverse.map (·.tree)), 1 + (parts.map (·.depth)).foldl max 0, true⟩

end Part

structure Frame where
  parts : List Part
  branches : List Part
  index : Option Nat
  flags : Flags

/-- How far the reading of a pattern has come. Parts and branches stand last first. -/
structure Progress where
  flags : Flags := {}
  parts : List Part := []
  branches : List Part := []
  frames : List Frame := []
  groups : Nat := 0
  names : List Text := []

namespace Progress

def add (p : Progress) (tree : Regular) (depth : Nat) : Progress :=
  { p with parts := ⟨tree, depth, true⟩ :: p.parts }

def content (p : Progress) : Part := .alternation (.sequence p.parts :: p.branches)

def quantify? (p : Progress) (least : Nat) (most : Option Nat) (greedy : Bool) :
    Option Progress :=
  match p.parts with
  | ⟨tree, depth, true⟩ :: rest =>
    some { p with
      parts := ⟨.repeated tree least most (greedy != p.flags.swapGreed), depth + 1, true⟩ :: rest }
  | _ => none

def enter (p : Progress) (index : Option Nat) (flags : Flags) : Progress :=
  { p with
    flags, parts := [], branches := [], frames := ⟨p.parts, p.branches, index, p.flags⟩ :: p.frames }

def enterCapture (p : Progress) : Progress :=
  { p.enter (some (p.groups + 1)) p.flags with groups := p.groups + 1 }

def leave? (p : Progress) : Option Progress :=
  match p.frames with
  | [] => none
  | frame :: frames =>
    let content := p.content
    let tree := match frame.index with
      | some index => .group index content.tree
      | none => content.tree
    some { p with
      flags := frame.flags, branches := frame.branches, frames,
      parts := ⟨tree, content.depth + 1, true⟩ :: frame.parts }

end Progress

def laziness (s : Text) : Bool × Text :=
  match s with
  | '?' :: rest => (false, rest)
  | rest => (true, rest)

def decimal? (flags : Flags) (s : Text) : Option (Nat × Text) :=
  let (digits, left) := flags.span Digits.isDecimal (s.dropWhile Unicode.isBlank)
  let n := Digits.value 10 digits
  if digits.isEmpty || n ≥ UInt32.size then none
  else some (n, flags.skip (left.dropWhile Unicode.isBlank))

/-- A counted quantifier; the text starts behind the opening brace. -/
def counted? (flags : Flags) (s : Text) : Option (Nat × Option Nat × Bool × Text) := do
  let s ← flags.skipTo? s
  let (least, s) ← decimal? flags s
  let (most, s) ← match s with
    | ',' :: rest =>
      match ← flags.skipTo? rest with
      | '\x7d' :: left => some (none, '\x7d' :: left)
      | rest => (decimal? flags rest).map fun (n, left) => (some n, left)
    | s => some (some least, s)
  match s with
  | '\x7d' :: rest =>
    let (greedy, rest) := laziness (flags.skip rest)
    if most.any (· < least) then none else some (least, most, greedy, rest)
  | _ => none

def groupName? (s : Text) : Option (Text × Text) :=
  let name := s.takeWhile (· != '>')
  let firstOk := name.head?.any fun c => c == '_' || Unicode.isAlphabetic c
  let restOk := name.tail.all fun c => "_.[]".toList.contains c || Unicode.isAlphanumeric c
  match s.dropWhile (· != '>') with
  | _ :: rest => if firstOk && restOk then some (name, rest) else none
  | [] => none

/-- Flag letters up to a `:` or `)`. No letter may come twice, nor a `-` last. The answer tells
whether a group follows. -/
def flagLetters? (flags : Flags) (seen : Text) (afterMinus : Bool) :
    Text → Option (Flags × Bool × Text)
  | [] => none
  | ':' :: rest => if afterMinus then none else some (flags, true, rest)
  | ')' :: rest => if afterMinus || seen.isEmpty then none else some (flags, false, rest)
  | c :: rest =>
    if seen.contains c then none
    else if c = '-' then flagLetters? flags (c :: seen) true rest
    else (flags.switch? c (!seen.contains '-')).bind fun flags =>
      flagLetters? flags (c :: seen) false rest

def openGroup? (p : Progress) (s : Text) : Option (Progress × Text) :=
  let named (rest : Text) : Option (Progress × Text) := do
    let (name, left) ← groupName? rest
    if p.names.contains name then none
    else some ({ p.enterCapture with names := name :: p.names }, left)
  match p.flags.skip s with
  | '?' :: 'P' :: '<' :: rest => named rest
  | '?' :: '<' :: rest =>
    match rest with
    | '=' :: _ => none
    | '!' :: _ => none
    | rest => named rest
  | '?' :: rest => do
    let (flags, opens, left) ← flagLetters? p.flags [] false rest
    if opens then some (p.enter none flags, left)
    else some ({ p with flags, parts := ⟨.empty, 0, false⟩ :: p.parts }, left)
  | rest => some (p.enterCapture, rest)

def ofAtom (flags : Flags) : Atom → Regular
  | .char c => .one (flags.literal c)
  | .set s => .one s
  | .look condition => .look condition

def step? (p : Progress) (c : Char) (rest : Text) : Option (Progress × Text) :=
  let quantified (least : Nat) (most : Option Nat) : Option (Progress × Text) :=
    let (greedy, rest) := laziness rest
    (p.quantify? least most greedy).map (·, rest)
  match c with
  | '(' => openGroup? p rest
  | ')' => p.leave?.map (·, rest)
  | '|' => some ({ p with parts := [], branches := .sequence p.parts :: p.branches }, rest)
  | '[' => (Bracket.parse? p.flags rest).map fun (s, left) => (p.add (.one s.set) s.depth, left)
  | '?' => quantified 0 (some 1)
  | '*' => quantified 0 none
  | '+' => quantified 1 none
  | '\x7b' => do
    let (least, most, greedy, left) ← counted? p.flags rest
    (p.quantify? least most greedy).map (·, left)
  | '.' => p.flags.dot?.map fun s => (p.add (.one s) 0, rest)
  | '^' => some (p.add (.look p.flags.startLook) 0, rest)
  | '$' => some (p.add (.look p.flags.endLook) 0, rest)
  | '\\' => (Escape.parse? p.flags rest).map fun (atom, left) =>
      (p.add (ofAtom p.flags atom) 0, left)
  | c => some (p.add (.one (p.flags.literal c)) 0, rest)

/-- Reads the rest of a pattern. Every step reads at least one character. -/
def read? : Nat → Progress → Text → Option Progress
  | 0, _, _ => none
  | fuel + 1, p, s =>
    match p.flags.skip s with
    | [] => some p
    | c :: rest => (step? p c rest).bind fun (p, left) => read? fuel p left

def maxDepth : Nat := 250

/-- The expression that a pattern denotes. A pattern whose matcher would be too large is
refused. -/
def parse? (source : Text) : Option Regular := do
  let p ← read? (source.length + 1) {} source
  let content := p.content
  if p.frames.isEmpty && content.depth ≤ maxDepth && content.tree.fits then some content.tree
  else none

end Highlighting.Pattern.Regular
