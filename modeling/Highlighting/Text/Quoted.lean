import Highlighting.Text.Basic
import Highlighting.Unicode.Classes

/-!
Quoted text.

Double quotes and backslashes are escaped, and so is every character that would not show:
the common control characters by a letter, the others by their number.
-/
namespace Highlighting.Text

def escapeChar (c : Char) : Text :=
  match c with
  | '\x00' => ['\\', '0']
  | '\t' => ['\\', 't']
  | '\r' => ['\\', 'r']
  | '\n' => ['\\', 'n']
  | '\\' => ['\\', '\\']
  | '"' => ['\\', '"']
  | c =>
    if Unicode.isVisible c then [c]
    else ['\\', 'u', '\x7b'] ++ Digits.hexadecimal c.toNat ++ ['\x7d']

def quoted (s : Text) : Text := '"' :: s.flatMap escapeChar ++ ['"']

end Highlighting.Text
