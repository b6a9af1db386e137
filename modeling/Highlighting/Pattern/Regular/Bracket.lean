import Highlighting.Pattern.Regular.Escape

/-!
Classes in brackets.

Brackets nest, and a class may be the intersection, the difference or the symmetric difference
of what stands left and right of `&&`, `--` or `~~`; these operators group to the left. Reading
keeps a stack of what is not finished: open brackets, and operators that wait for their right
side.
-/
namespace Highlighting.Pattern

structure Nested where
  set : CharSet
  depth : Nat

namespace Nested

/-- The union of what stands side by side; more than one part add a level. -/
def union : List Nested → Nested
  | [] => ⟨.empty, 0⟩
  | [only] => only
  | parts => ⟨.unionAll (parts.map (·.set)), 1 + (parts.map (·.depth)).foldl max 0⟩

end Nested

inductive SetOp where
  | inter
  | diff
  | symmDiff
  deriving DecidableEq

namespace SetOp

def apply : SetOp → CharSet → CharSet → CharSet
  | inter => .inter
  | diff => .diff
  | symmDiff => .symmDiff

end SetOp

namespace Bracket

inductive Pending where
  | bracket (before : List Nested) (negated : Bool)
  | operator (op : SetOp) (left : Nested)

structure State where
  parts : List Nested
  pending : List Pending

/-- Opens a bracket whose text starts behind the `[`. Hyphens at the start, and a `]` that is
the very first character, stand for themselves. -/
def enter? (flags : Flags) (state : State) (s : Text) : Option (State × Text) := do
  let s ← flags.skipTo? s
  let (negated, s) ← match s with
    | '^' :: rest => (flags.skipTo? rest).map fun rest => (true, rest)
    | s => some (false, s)
  let (hyphens, s) := flags.span (· == '-') s
  let first := hyphens.map fun c => (⟨.chars [c], 0⟩ : Nested)
  let next : State := ⟨first, .bracket state.parts negated :: state.pending⟩
  match s with
  | [] => none
  | ']' :: rest =>
    if hyphens.isEmpty then
      (flags.skipTo? rest).map fun rest => (⟨[⟨.chars [']'], 0⟩], next.pending⟩, rest)
    else some (next, s)
  | s => some (next, s)

/-- The union of the parts read last, with the operators that waited for it applied. -/
def settle (flags : Flags) (state : State) : Nested × List Pending :=
  let right := Nested.union state.parts.reverse
  match state.pending with
  | .operator op left :: rest =>
    (⟨op.apply (flags.closeCase left.set) (flags.closeCase right.set),
      1 + max left.depth right.depth⟩, rest)
  | pending => (right, pending)

inductive Closed where
  | whole (class' : Nested)
  | inner (state : State)

def close? (flags : Flags) (state : State) : Option Closed :=
  let (content, pending) := settle flags state
  match pending with
  | .bracket before negated :: rest => do
    let s ← flags.negate? negated (flags.closeCase content.set)
    let finished : Nested := ⟨s, content.depth + 1⟩
    if rest.isEmpty then some (.whole finished)
    else some (.inner ⟨finished :: before, rest⟩)
  | _ => none

def operate (flags : Flags) (state : State) (op : SetOp) : State :=
  let (left, pending) := settle flags state
  ⟨[], .operator op left :: pending⟩

def named? (s : Text) : Option (Bool × CharSet × Text) :=
  match s with
  | ':' :: rest =>
    let (negated, rest) := match rest with
      | '^' :: rest => (true, rest)
      | rest => (false, rest)
    let name := rest.takeWhile (· != ':')
    match rest.dropWhile (· != ':') with
    | ':' :: ']' :: left => (CharSet.asciiClass? name).map fun s => (negated, s, left)
    | _ => none
  | _ => none

def item? (flags : Flags) : Text → Option (Atom × Text)
  | [] => none
  | '\\' :: rest => Escape.parse? flags rest
  | c :: rest => some (.char c, rest)

/-- The token behind a hyphen. Of a comment only the `#` is passed over. -/
def peekPast (flags : Flags) (rest : Text) : Option Char :=
  let rec go : Bool → Text → Option Char
    | _, [] => rest.head?
    | inComment, c :: more =>
      if Unicode.isBlank c then go inComment more
      else if !inComment && c == '#' then go true more
      else some c
  if flags.verbose then go false rest else rest.head?

/-- A literal character of a class; bytes beyond ASCII need the flag `u`. -/
def literal? (flags : Flags) : Atom → Option Char
  | .char c => if flags.unicode || c.toNat < 0x80 then some c else none
  | _ => none

def range? (flags : Flags) (s : Text) : Option (CharSet × Text) := do
  let (first, left) ← item? flags s
  let left ← flags.skipTo? left
  let single : Option CharSet := match first with
    | .set s => some s
    | .look _ => none
    | first => (literal? flags first).map fun c => .chars [c]
  match left with
  | '-' :: rest =>
    let behind := peekPast flags rest
    if behind == some ']' || behind == some '-' then single.map (·, left)
    else
      let rest ← flags.skipTo? rest
      let (last, left) ← item? flags rest
      let lo ← literal? flags first
      let hi ← literal? flags last
      if lo ≤ hi then some (.range lo hi, left) else none
  | left => single.map (·, left)

def read? (flags : Flags) : Nat → State → Text → Option (Nested × Text)
  | 0, _, _ => none
  | fuel + 1, state, s =>
    match flags.skip s with
    | [] => none
    | '[' :: rest =>
      match named? rest with
      | some (negated, s, left) => do
        let s ← flags.negate? negated (flags.closeCase s)
        read? flags fuel ⟨⟨s, 0⟩ :: state.parts, state.pending⟩ left
      | none => (enter? flags state rest).bind fun (state, left) => read? flags fuel state left
    | ']' :: rest =>
      match close? flags state with
      | some (.whole finished) => some (finished, rest)
      | some (.inner state) => read? flags fuel state rest
      | none => none
    | '&' :: '&' :: rest => read? flags fuel (operate flags state .inter) rest
    | '-' :: '-' :: rest => read? flags fuel (operate flags state .diff) rest
    | '~' :: '~' :: rest => read? flags fuel (operate flags state .symmDiff) rest
    | rest =>
      (range? flags rest).bind fun (s, left) =>
        read? flags fuel ⟨⟨s, 0⟩ :: state.parts, state.pending⟩ left

def parse? (flags : Flags) (s : Text) : Option (Nested × Text) :=
  (enter? flags ⟨[], []⟩ s).bind fun (state, left) => read? flags (s.length + 1) state left

end Bracket

end Highlighting.Pattern
