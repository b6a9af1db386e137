/-! Digits and the numbers that they write. -/
namespace Highlighting.Digits

def hex? (c : Char) : Option Nat :=
  if '0' ≤ c ∧ c ≤ '9' then some (c.toNat - '0'.toNat)
  else if 'a' ≤ c ∧ c ≤ 'f' then some (c.toNat - 'a'.toNat + 10)
  else if 'A' ≤ c ∧ c ≤ 'F' then some (c.toNat - 'A'.toNat + 10)
  else none

def isHex (c : Char) : Bool := (hex? c).isSome

def isDecimal (c : Char) : Bool := '0' ≤ c && c ≤ '9'

/-- The number that digits write in a base; anything but a digit counts as zero. -/
def value (base : Nat) (digits : List Char) : Nat :=
  digits.foldl (fun n c => n * base + (hex? c).getD 0) 0

def push? (n : Fin 256) (c : Char) : Option (Fin 256) := do
  let d ← hex? c
  if small : n * 16 + d < 256 then some ⟨n * 16 + d, small⟩ else none

/-- The byte that hexadecimal digits write, at least one of them, behind a plus sign or not. -/
def byte? : List Char → Option (Fin 256)
  | [] => none
  | ['+'] => none
  | '+' :: digits => digits.foldlM push? 0
  | digits => digits.foldlM push? 0

def scalar? (n : Nat) : Option Char :=
  if h : n.isValidChar then some (Char.ofNatAux n h) else none

def decimal (n : Nat) : List Char := Nat.toDigits 10 n

def hexadecimal (n : Nat) : List Char := Nat.toDigits 16 n

end Highlighting.Digits
