import Highlighting.Pattern.Extended.Basic
import Highlighting.Pattern.Regular.Bracket

/-!
The grammar of extended patterns.

Reading keeps the parts of the branch that is being read, the branches before it, and a stack of
the groups around it. A quantifier is read together with what it repeats, so a second quantifier
in a row is refused, except for the `?` and `+` that make the first one lazy or possessive.
Brackets and named classes have the grammar of regular patterns.
-/
namespace Highlighting.Pattern.Extended

/-- What a group that is not closed yet will become. Behind a plain one the flags from before hold
again, and a choice keeps the length of the text behind its condition. -/
inductive Opening where
  | plain (flags : Flags)
  | capture (index : Nat)
  | ahead (negated : Bool)
  | behind (negated : Bool)
  | atomic
  | condition
  | choice (condition : Extended) (length : Nat)

structure Frame where
  parts : List Extended
  branches : List Extended
  opening : Opening

/-- How far the reading of a pattern of `size` bytes has come. Parts, branches and names stand last
first, and `numbered` tells whether a group is referred to by its number. -/
structure Progress where
  size : Nat
  flags : Flags := {}
  parts : List Extended := []
  branches : List Extended := []
  frames : List Frame := []
  groups : Nat := 0
  names : List (Text × Nat) := []
  numbered : Bool := false

def maxGroups : Nat := 64

/-- Passes over comments and, in verbose patterns, blanks. A comment must be closed. -/
def skip? (verbose : Bool) : Nat → Text → Option Text
  | 0, s => some s
  | fuel + 1, s =>
    match s with
    | '(' :: '?' :: '#' :: rest => (comment? rest).bind (skip? verbose fuel)
    | '#' :: rest =>
      if verbose then skip? verbose fuel ((rest.dropWhile (· != '\n')).drop 1) else some s
    | c :: rest =>
      if verbose && (c == ' ' || c == '\r' || c == '\n' || c == '\t') then
        skip? verbose fuel rest
      else some s
    | [] => some []
where
  comment? : Text → Option Text
    | [] => none
    | ')' :: rest => some rest
    | '\\' :: _ :: rest => comment? rest
    | _ :: rest => comment? rest

namespace Progress

def skip? (p : Progress) (s : Text) : Option Text :=
  Extended.skip? p.flags.verbose (s.length + 1) s

end Progress

def decimal? (s : Text) : Option (Nat × Text) :=
  let digits := s.takeWhile Digits.isDecimal
  let n := Digits.value 10 digits
  if digits.isEmpty || n ≥ UInt64.size then none else some (n, s.dropWhile Digits.isDecimal)

/-- An upper bound; the greatest number of 64 bits is none. -/
def bound (n : Nat) : Option Nat := if n + 1 < UInt64.size then some n else none

/-- The bounds of a counted quantifier; the text starts behind the opening brace. A missing
lower bound is zero. Without an answer the brace stands for itself. -/
def counted? (p : Progress) (s : Text) : Option (Nat × Option Nat × Text) := do
  let s ← p.skip? s
  let (least, s) ← match s with
    | ',' :: _ => some (0, s)
    | s => decimal? s
  match ← p.skip? s with
  | '\x7d' :: rest => some (least, bound least, rest)
  | ',' :: rest =>
    let s ← p.skip? rest
    let (most, s) := match decimal? s with
      | some (most, s) => (bound most, s)
      | none => (none, s)
    match ← p.skip? s with
    | '\x7d' :: rest => some (least, most, rest)
    | _ => none
  | _ => none

def name? (close : Char) (s : Text) : Option (Text × Text) :=
  let isNameChar := fun c => c == '_' || Unicode.isAlphanumeric c
  let name := s.takeWhile isNameChar
  match s.dropWhile isNameChar with
  | c :: rest => if c = close && !name.isEmpty then some (name, rest) else none
  | [] => none

def numberedRef? (p : Progress) (s : Text) : Option (Nat × Progress × Text) := do
  let (index, rest) ← decimal? s
  if index < p.size / 2 then some (index, { p with numbered := true }, rest) else none

def namedRef? (p : Progress) (close : Char) (s : Text) : Option (Nat × Text) := do
  let (name, rest) ← name? close s
  match p.names.lookup name with
  | some index => some (index, rest)
  | none =>
    match decimal? name with
    | some (index, []) => some (index, rest)
    | _ => none

/-- A reference to a group by its name or number, or, after a hyphen, by its distance back from
here, where the distance zero leads to the whole match. -/
def nearRef? (p : Progress) (close : Char) (s : Text) : Option (Nat × Text) :=
  match s with
  | '-' :: rest => do
    let (distance, rest) ← decimal? rest
    match rest with
    | c :: rest =>
      if c = close && distance ≤ p.groups + 1 then
        some (if distance = 0 then 0 else p.groups + 1 - distance, rest)
      else none
    | [] => none
  | s => namedRef? p close s

def hex? (count : Nat) (s : Text) : Option (Char × Text) := do
  let digits := s.take count
  if digits.length = count && digits.all Digits.isHex then
    some (← Digits.scalar? (Digits.value 16 digits), s.drop count)
  else
    match s with
    | '\x7b' :: rest =>
      let digits := rest.takeWhile Digits.isHex
      match rest.dropWhile Digits.isHex with
      | '\x7d' :: left =>
        if digits.isEmpty || digits.length > 8 then none
        else some (← Digits.scalar? (Digits.value 16 digits), left)
      | _ => none
    | _ => none

def control? (c : Char) : Option Char :=
  if c = 'e' then some '\x1b' else if c = ' ' then some ' ' else Escape.control? c

def propertyText? (s : Text) : Option (Text × Text) :=
  match s with
  | '\x7b' :: rest =>
    match rest.dropWhile (· != '\x7d') with
    | _ :: left => some ('\x7b' :: rest.takeWhile (· != '\x7d') ++ ['\x7d'], left)
    | [] => none
  | c :: rest => some ([c], rest)
  | [] => none

/-- One character of a set; a level is added where case does not matter. -/
def oneOf (flags : Flags) (s : CharSet) (depth : Nat) : Extended :=
  .one s (if flags.caseless then depth + 1 else depth)

def classOf? (flags : Flags) (s : Text) : Option Extended :=
  let caseless : Flags := { caseless := flags.caseless }
  match s with
  | '[' :: rest =>
    match Bracket.parse? caseless rest with
    | some (s, []) => some (oneOf flags s.set s.depth)
    | _ => none
  | '\\' :: rest =>
    match Escape.parse? caseless rest with
    | some (.set s, []) => some (oneOf flags s 0)
    | _ => none
  | _ => none

def shorthandText? (c : Char) : Option Text :=
  if "dDsSwW".toList.contains c then some ['\\', c]
  else if c = 'h' then some "[0-9A-Fa-f]".toList
  else if c = 'H' then some "[^0-9A-Fa-f]".toList
  else none

def quoted (c : Char) : Text :=
  if "\\.+*?()|[]\x7b\x7d^$#&-~".toList.contains c then ['\\', c] else [c]

def classEscape? : Text → Option (Text × Text)
  | [] => none
  | c :: rest =>
    let literal (r : Option (Char × Text)) := r.map fun (c, left) => (quoted c, left)
    match c with
    | 'x' => literal (hex? 2 rest)
    | 'u' => literal (hex? 4 rest)
    | 'U' => literal (hex? 8 rest)
    | 'b' => some (quoted '\x08', rest)
    | c =>
      if Digits.isDecimal c then none
      else if c = 'p' || c = 'P' then
        (propertyText? rest).map fun (name, left) => ('\\' :: c :: name, left)
      else
        match shorthandText? c, control? c with
        | some text, _ => some (text, rest)
        | none, some d => some (quoted d, rest)
        | none, none =>
          if c.isAlpha && !"kAzB<>KG".toList.contains c then none else some (quoted c, rest)

/-- The text of a class from behind its `[` to the bracket that closes it; `depth` counts the
brackets that are open. -/
def classText? : Nat → Nat → Text → Option (Text × Text)
  | 0, _, _ => none
  | _ + 1, _, [] => none
  | fuel + 1, depth, c :: rest =>
    match c with
    | '\\' => do
      let (text, left) ← classEscape? rest
      (classText? fuel depth left).map fun (more, left) => (text ++ more, left)
    | '[' => (classText? fuel (depth + 1) rest).map fun (more, left) => ('[' :: more, left)
    | ']' =>
      if depth ≤ 1 then some ([']'], rest)
      else (classText? fuel (depth - 1) rest).map fun (more, left) => (']' :: more, left)
    | c => (classText? fuel depth rest).map fun (more, left) => (c :: more, left)

/-- A class in brackets; the text starts behind the `[`. A `]` at the start stands for itself. -/
def bracket? (flags : Flags) (s : Text) : Option (Extended × Text) := do
  let (start, s) := match s with
    | '^' :: ']' :: rest => (['[', '^', ']'], rest)
    | '^' :: rest => (['[', '^'], rest)
    | ']' :: rest => (['[', ']'], rest)
    | s => (['['], s)
  let (text, left) ← classText? (s.length + 1) 1 s
  some (← classOf? flags (start ++ text), left)

def escape? (p : Progress) : Text → Option (Extended × Progress × Text)
  | [] => none
  | c :: rest =>
    let numbered (r : Option (Char × Text)) : Option (Extended × Progress × Text) :=
      r.map fun (c, left) => (oneOf p.flags (p.flags.literal c) 0, p, left)
    /- A character that is escaped as itself keeps its case. -/
    let literal (c : Char) : Extended × Progress × Text := (.one (.chars [c]) 0, p, rest)
    let edge (kind : WordEdge) : Option (Extended × Progress × Text) :=
      match kind, rest with
      | .boundary, '\x7b' :: _ => none
      | .noBoundary, '\x7b' :: _ => none
      | kind, rest => some (.look (.word .word kind), p, rest)
    /- A group can be referred to only behind its opening parenthesis. -/
    let reference (index : Nat) (p : Progress) (left : Text) :=
      if index ≤ p.groups then
        some (.backref index, p, left)
      else none
    match c with
    | 'k' =>
      match rest with
      | '<' :: rest => (nearRef? p '>' rest).bind fun (index, left) => reference index p left
      | '\'' :: rest => (nearRef? p '\'' rest).bind fun (index, left) => reference index p left
      | _ => none
    | 'A' => some (.look .textStart, p, rest)
    | 'z' => some (.look .textEnd, p, rest)
    | 'b' => edge .boundary
    | 'B' => edge .noBoundary
    | '<' => edge .start
    | '>' => edge .stop
    | 'K' => some (.keepOut, p, rest)
    | 'G' => some (.searchStart, p, rest)
    | 'x' => numbered (hex? 2 rest)
    | 'u' => numbered (hex? 4 rest)
    | 'U' => numbered (hex? 8 rest)
    | c =>
      if Digits.isDecimal c then
        (numberedRef? p (c :: rest)).bind fun (index, p, left) => reference index p left
      else if c = 'p' || c = 'P' then do
        let (name, left) ← propertyText? rest
        some (← classOf? p.flags ('\\' :: c :: name), p, left)
      else
        match shorthandText? c, control? c with
        | some text, _ =>
          let flags : Flags := if text.head? = some '[' then {} else p.flags
          (classOf? flags text).map fun e => (e, p, rest)
        | none, some d => some (literal d)
        | none, none => if c.isAlpha then none else some (literal c)

def sequenceOf : List Extended → Extended
  | [] => .empty
  | [only] => only
  | parts => .seq parts.reverse

namespace Progress

/-- Everything read in the innermost group. References by number and named groups exclude each
other, but this is checked only where there is no alternation. -/
def content? (p : Progress) : Option Extended :=
  if p.branches.isEmpty then
    if p.numbered && !p.names.isEmpty then none else some (sequenceOf p.parts)
  else some (.alt (sequenceOf p.parts :: p.branches).reverse)

def enter? (p : Progress) (opening : Opening) : Option Progress :=
  if p.frames.length + 1 ≥ maxGroups then none
  else
    some { p with
      parts := [], branches := [], frames := ⟨p.parts, p.branches, opening⟩ :: p.frames }

def enterCapture? (p : Progress) : Option Progress :=
  { p with groups := p.groups + 1 }.enter? (.capture (p.groups + 1))

def enterNamed? (p : Progress) (close : Char) (s : Text) : Option (Progress × Text) := do
  let (name, left) ← name? close s
  let p ← p.enterCapture?
  some ({ p with names := (name, p.groups) :: p.names }, left)

/-- Adds a part; parts that are always empty are left out. -/
def add (p : Progress) (e : Extended) : Progress :=
  if e.isEmpty then p else { p with parts := e :: p.parts }

end Progress

def isRepeatable : Extended → Bool
  | .empty | .look _ | .ahead .. | .behind .. => false
  | _ => true

def quantifier? (p : Progress) : Text → Option (Nat × Option Nat × Text)
  | '?' :: rest => some (0, some 1, rest)
  | '*' :: rest => some (0, none, rest)
  | '+' :: rest => some (1, none, rest)
  | '\x7b' :: rest => counted? p rest
  | _ => none

def complete? (p : Progress) (e : Extended) (s : Text) : Option (Progress × Text) := do
  let s ← p.skip? s
  match quantifier? p s with
  | none => some (p.add e, s)
  | some (least, most, rest) =>
    if !isRepeatable e then none
    else
      let rest ← p.skip? rest
      let (greedy, rest) := match rest with
        | '?' :: rest => (false, rest)
        | rest => (true, rest)
      let repeated := .many e least most (greedy != p.flags.swapGreed)
      match rest with
      | '+' :: rest => some (p.add (.atomic repeated), rest)
      | rest => some (p.add repeated, rest)

/-- Flag letters up to a `:` or `)`; `length` is that of the text at the first letter, and
`negated` tells whether a `-` has been read. The answer tells whether a group follows. -/
def flagLetters? (p : Progress) (length : Nat) :
    Nat → Bool → Text → Option (Progress × Bool × Text)
  | 0, _, _ => none
  | fuel + 1, negated, s => do
    let s ← p.skip? s
    match s with
    | [] => none
    | c :: rest =>
      let onlyMinus := negated && s.length + 1 == length
      match c with
      | '-' => if negated then none else flagLetters? p length fuel true rest
      | ')' => if s.length == length || onlyMinus then none else some (p, false, rest)
      | ':' => if onlyMinus then none else some (p, true, rest)
      | 'R' => none
      | 'u' => if negated then none else flagLetters? p length fuel negated rest
      | c => do
        let flags ← p.flags.switch? c (!negated)
        flagLetters? { p with flags } length fuel negated rest

def closing? (p : Progress) (s : Text) : Option Text := do
  match ← p.skip? s with
  | ')' :: rest => some rest
  | _ => none

def conditional? (p : Progress) (s : Text) : Option (Progress × Text) := do
  let byGroup (index : Nat) (p : Progress) (left : Text) : Option (Progress × Text) := do
    let left ← closing? p left
    if index ≤ p.groups then
      (p.enter? (.choice (.groupSet index) left.length)).map (·, left)
    else none
  match s with
  | '\'' :: rest => (nearRef? p '\'' rest).bind fun (index, left) => byGroup index p left
  | '<' :: rest => (nearRef? p '>' rest).bind fun (index, left) => byGroup index p left
  | [] => none
  | c :: _ =>
    if Digits.isDecimal c then
      (numberedRef? p s).bind fun (index, p, left) => byGroup index p left
    else (p.enter? .condition).map (·, s)

def openGroup? (p : Progress) (s : Text) : Option (Progress × Text) := do
  if p.frames.length + 1 ≥ maxGroups then none
  match ← p.skip? s with
  | '?' :: '=' :: rest => (p.enter? (.ahead false)).map (·, rest)
  | '?' :: '!' :: rest => (p.enter? (.ahead true)).map (·, rest)
  | '?' :: '<' :: '=' :: rest => (p.enter? (.behind false)).map (·, rest)
  | '?' :: '<' :: '!' :: rest => (p.enter? (.behind true)).map (·, rest)
  | '?' :: '<' :: rest => p.enterNamed? '>' rest
  | '?' :: 'P' :: '<' :: rest => p.enterNamed? '>' rest
  | '?' :: 'P' :: '=' :: rest => do
    let (index, left) ← namedRef? p ')' rest
    if index ≤ p.groups then complete? p (.backref index) left else none
  | '?' :: '>' :: rest => (p.enter? .atomic).map (·, rest)
  | '?' :: '(' :: rest => conditional? p rest
  | '?' :: rest => do
    let (q, opens, left) ← flagLetters? p rest.length (rest.length + 1) false rest
    if opens then (q.enter? (.plain p.flags)).map (·, left)
    else complete? q .empty left
  | rest => p.enterCapture?.map (·, rest)

def choiceOf (condition content : Extended) : Extended :=
  let (yes, no) : Extended × Extended := match content with
    | .alt [yes] => (yes, .empty)
    | .alt [yes, no] => (yes, no)
    | .alt (yes :: rest) => (yes, .alt rest)
    | content => (content, .empty)
  if yes.isEmpty && no.isEmpty then condition else .cond condition yes no

def leave? (p : Progress) (s : Text) : Option (Progress × Text) :=
  match p.frames with
  | [] => none
  | frame :: frames => do
    let content ← p.content?
    let q := { p with parts := frame.parts, branches := frame.branches, frames }
    let rest := s.drop 1
    match frame.opening with
    | .plain flags => complete? { q with flags } content rest
    | .capture index => complete? q (.group index content) rest
    | .ahead negated => complete? q (.ahead negated content) rest
    | .behind negated => complete? q (.behind negated content) rest
    | .atomic => complete? q (.atomic content) rest
    | .condition => do
      let condition : Extended := match content with
        | .backref index => .groupSet index
        | content => content
      (q.enter? (.choice condition rest.length)).map (·, rest)
    | .choice condition length =>
      match condition with
      | .groupSet _ => complete? q (choiceOf condition content) rest
      | condition =>
        if s.length = length then none else complete? q (choiceOf condition content) rest

def step? (p : Progress) (c : Char) (rest : Text) : Option (Progress × Text) :=
  match c with
  | '(' => openGroup? p rest
  | ')' => leave? p (')' :: rest)
  | '|' => some ({ p with parts := [], branches := sequenceOf p.parts :: p.branches }, rest)
  | '?' | '*' | '+' => none
  | '[' => (bracket? p.flags rest).bind fun (e, left) => complete? p e left
  | '\\' => (escape? p rest).bind fun (e, p, left) => complete? p e left
  | '.' =>
    complete? p (if p.flags.dotAll then .one .any 1 else .one (.compl (.chars ['\n'])) 0) rest
  | '^' => complete? p (.look (if p.flags.multiLine then .lineStart else .textStart)) rest
  | '$' => complete? p (.look (if p.flags.multiLine then .lineEnd else .textEnd)) rest
  | c => complete? p (oneOf p.flags (p.flags.literal c) 0) rest

/-- Reads the rest of a pattern. Every step reads at least one character. -/
def read? : Nat → Progress → Text → Option Progress
  | 0, _, _ => none
  | fuel + 1, p, s =>
    (p.skip? s).bind fun s =>
      match s with
      | [] => some p
      | c :: rest => (step? p c rest).bind fun (p, left) => read? fuel p left

def parse? (source : Text) : Option Extended := do
  let p ← read? (source.length + 1) { size := source.bytes } source
  if p.frames.isEmpty then p.content? else none

end Highlighting.Pattern.Extended
