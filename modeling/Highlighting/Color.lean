import Highlighting.Text.Blank
import Highlighting.Text.Digits
import Highlighting.Text.Lowercase

/-!
Terminal colors.

A color is one of sixteen names, or `#` with three or six hexadecimal digits. White space around
it does not matter, nor does case. Six digits are read by cutting their text at byte offsets, which
is possible only because nothing but digits comes that far.
-/
namespace Highlighting

inductive NamedColor where
  | black
  | darkGrey
  | red
  | darkRed
  | green
  | darkGreen
  | yellow
  | darkYellow
  | blue
  | darkBlue
  | magenta
  | darkMagenta
  | cyan
  | darkCyan
  | white
  | grey
  deriving DecidableEq, Repr

namespace NamedColor

def named : List (String × NamedColor) := [
  ("black", black), ("dark_grey", darkGrey), ("red", red), ("dark_red", darkRed),
  ("green", green), ("dark_green", darkGreen), ("yellow", yellow), ("dark_yellow", darkYellow),
  ("blue", blue), ("dark_blue", darkBlue), ("magenta", magenta), ("dark_magenta", darkMagenta),
  ("cyan", cyan), ("dark_cyan", darkCyan), ("white", white), ("grey", grey)]

def ofName? (name : Text) : Option NamedColor := named.lookup (String.ofList name)

/-- The place of the color in the palette of a terminal. -/
def code : NamedColor → Nat
  | black => 0
  | darkRed => 1
  | darkGreen => 2
  | darkYellow => 3
  | darkBlue => 4
  | darkMagenta => 5
  | darkCyan => 6
  | grey => 7
  | darkGrey => 8
  | red => 9
  | green => 10
  | yellow => 11
  | blue => 12
  | magenta => 13
  | cyan => 14
  | white => 15

end NamedColor

inductive Color where
  | named (name : NamedColor)
  | rgb (red green blue : Fin 256)
  deriving DecidableEq, Repr

namespace Color

/-- Why a color cannot be read: its text has no part between the offsets at which it is cut. -/
inductive Fault where
  | noSuchPart
  deriving DecidableEq, Repr

/-- A channel from one digit, which counts twice. The lowest byte of the product is kept. -/
def doubled? (c : Char) : Option (Fin 256) :=
  (Digits.hex? c).map fun d => ⟨d * 17 % 256,Nat.mod_lt _ (by decide)⟩

def ofShort? (digits : Text) : Option Color := do
  let channels := digits.map doubled?
  let red ← channels[0]?.join
  let green ← channels[1]?.join
  let blue ← channels[2]?.join
  return rgb red green blue

def channelAt (digits : Text) (start stop : Nat) : OptionT (Except Fault) (Fin 256) :=
  match digits.slice? start stop with
  | none => OptionT.mk (.error .noSuchPart)
  | some part => OptionT.mk (.ok (Digits.byte? part))

def ofLong (digits : Text) : OptionT (Except Fault) Color := do
  let red ← channelAt digits 0 2
  let green ← channelAt digits 2 4
  let blue ← channelAt digits 4 6
  return rgb red green blue

def ofDigits (digits : Text) : OptionT (Except Fault) Color :=
  if digits.all Digits.isHex then
    match digits.bytes with
    | 3 => OptionT.mk (.ok (ofShort? digits))
    | 6 => ofLong digits
    | _ => failure
  else failure

def read (value : Text) : Except Fault (Option Color) :=
  match Text.trim value with
  | '#' :: digits => (ofDigits digits).run
  | name => .ok ((NamedColor.ofName? (Text.lower name)).map .named)

/-- The color that a text names. Every text can be read; one that could not would name none. -/
def parse? (value : Text) : Option Color := (read value).toOption.join

end Color

end Highlighting
