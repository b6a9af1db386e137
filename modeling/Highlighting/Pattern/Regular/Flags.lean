import Highlighting.Pattern.Look

/-!
The flags under which a part of a pattern is read, and the blanks between its tokens.

In verbose patterns blanks and comments may stand between any two tokens, even inside an escape
such as `\x{41}`; `Flags.skip` passes over them.
-/
namespace Highlighting.Pattern

/-- The flags `i`, `m`, `s`, `U`, `x`, `R` and `u`, in this order. -/
structure Flags where
  caseless : Bool := false
  multiLine : Bool := false
  dotAll : Bool := false
  swapGreed : Bool := false
  verbose : Bool := false
  crlf : Bool := false
  unicode : Bool := true

namespace Flags

def switch? (flags : Flags) (letter : Char) (on : Bool) : Option Flags :=
  match letter with
  | 'i' => some { flags with caseless := on }
  | 'm' => some { flags with multiLine := on }
  | 's' => some { flags with dotAll := on }
  | 'U' => some { flags with swapGreed := on }
  | 'x' => some { flags with verbose := on }
  | 'R' => some { flags with crlf := on }
  | 'u' => some { flags with unicode := on }
  | _ => none

/-- Drops blanks and comments, which run from `#` to the end of the line. -/
def dropBlanks (inComment : Bool) : Text → Text
  | [] => []
  | c :: rest =>
    if inComment then dropBlanks (c != '\n') rest
    else if Unicode.isBlank c then dropBlanks false rest
    else if c = '#' then dropBlanks true rest
    else c :: rest

def skip (flags : Flags) (s : Text) : Text := if flags.verbose then dropBlanks false s else s

def skipTo? (flags : Flags) (s : Text) : Option Text :=
  match flags.skip s with
  | [] => none
  | rest => some rest

/-- The longest run of characters with a property, blanks between them left out. -/
def collect (flags : Flags) (p : Char → Bool) : Nat → Text → Text × Text
  | fuel + 1, c :: rest =>
    if p c then
      let (taken, left) := collect flags p fuel (flags.skip rest)
      (c :: taken, left)
    else ([], c :: rest)
  | _, rest => ([], rest)

def span (flags : Flags) (p : Char → Bool) (s : Text) : Text × Text :=
  flags.collect p (s.length + 1) s

/-- The set that the dot stands for. It is no set of bytes, so it needs the flag `u`. -/
def dot? (flags : Flags) : Option CharSet :=
  if !flags.unicode then none
  else if flags.dotAll then some .any
  else if flags.crlf then some (.compl (.chars ['\r', '\n']))
  else some (.compl (.chars ['\n']))

def startLook (flags : Flags) : Look :=
  if !flags.multiLine then .textStart
  else if flags.crlf then .lineStartCrlf
  else .lineStart

def endLook (flags : Flags) : Look :=
  if !flags.multiLine then .textEnd
  else if flags.crlf then .lineEndCrlf
  else .lineEnd

def closeCase (flags : Flags) (s : CharSet) : CharSet :=
  if !flags.caseless then s
  else if flags.unicode then .caseless s
  else .inter (.caseless s) .ascii

def literal (flags : Flags) (c : Char) : CharSet :=
  if !flags.caseless then .chars [c]
  else if flags.unicode then .chars (Unicode.caseVariants c)
  else .chars (if c.isAlpha then [c.toLower, c.toUpper] else [c])

/-- A class as a set; without the flag `u` its complement would hold stray bytes. -/
def negate? (flags : Flags) (negated : Bool) (s : CharSet) : Option CharSet :=
  if !negated then some s
  else if flags.unicode then some (.compl s)
  else none

def wordSet (flags : Flags) : CharSet := if flags.unicode then .word else .asciiWord

end Flags

end Highlighting.Pattern
