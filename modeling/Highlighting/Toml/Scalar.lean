import Highlighting.Text.Digits
import Highlighting.Toml.Basic

/-!
Numbers, dates and times of TOML.

Every function reads a text from its start and hands back the text that it leaves. Numbers and
dates must be in range. Of integers the value is kept, of other numbers their spelling, and of
dates and times the one form in which they are shown.
-/
namespace Highlighting.Toml

namespace Scalar

def digits? (isDigit : Char → Bool) : Text → Option (Text × Text)
  | [] => none
  | c :: rest =>
    if !isDigit c then none
    else
      match rest with
      | '_' :: more => (digits? isDigit more).map fun (ds, left) => (c :: ds, left)
      | rest =>
        match digits? isDigit rest with
        | some (ds, left) => some (c :: ds, left)
        | none => some ([c], rest)

def sign (s : Text) : Bool × Text :=
  match s with
  | '-' :: rest => (true, rest)
  | '+' :: rest => (false, rest)
  | rest => (false, rest)

def whole? (s : Text) : Option (Text × Text) :=
  match s with
  | '0' :: rest => some (['0'], rest)
  | rest => digits? Digits.isDecimal rest

def inRange? (n : Int) : Option Toml :=
  if -9223372036854775808 ≤ n ∧ n < 9223372036854775808 then some (.integer n) else none

def integer? (s : Text) : Option (Toml × Text) :=
  let based (base : Nat) (isDigit : Char → Bool) (rest : Text) : Option (Toml × Text) := do
    let (ds, left) ← digits? isDigit rest
    some (← inRange? (Digits.value base ds), left)
  match s with
  | '0' :: 'x' :: rest => based 16 Digits.isHex rest
  | '0' :: 'o' :: rest => based 8 (fun c => '0' ≤ c && c ≤ '7') rest
  | '0' :: 'b' :: rest => based 2 (fun c => c == '0' || c == '1') rest
  | s => do
    let (negative, rest) := sign s
    let (ds, left) ← whole? rest
    let n : Int := Digits.value 10 ds
    some (← inRange? (if negative then -n else n), left)

/-- The least number that is rounded to infinity as a double. -/
def doubleLimit : Nat := Nat.pow 2 1024 - Nat.pow 2 970

def overflows (mantissa : Nat) (exponent : Int) : Bool :=
  let size := (Digits.decimal mantissa).length + exponent
  if mantissa = 0 || size < 300 then false
  else if size > 320 then true
  else if 0 ≤ exponent then doubleLimit ≤ mantissa * Nat.pow 10 exponent.toNat
  else doubleLimit * Nat.pow 10 (-exponent).toNat ≤ mantissa

def exponent? (s : Text) : Option (Int × Text) :=
  match s with
  | [] => none
  | c :: rest =>
    if c = 'e' || c = 'E' then
      let (negative, rest) := sign rest
      (digits? Digits.isDecimal rest).map fun (ds, left) =>
        let n : Int := Digits.value 10 ds
        (if negative then -n else n, left)
    else none

/-- A number with a fraction, an exponent or both, or one of the values that are no numbers. -/
def float? (s : Text) : Option (Toml × Text) := do
  let (negative, rest) := sign s
  match rest with
  | 'i' :: 'n' :: 'f' :: left => some (.float "inf".toList, left)
  | 'n' :: 'a' :: 'n' :: left => some (.float "nan".toList, left)
  | rest =>
    let (ds, left) ← whole? rest
    let (fraction, exponent, left) ← match left with
      | '.' :: more => do
        let (fraction, left) ← digits? Digits.isDecimal more
        match left with
        | 'e' :: _ | 'E' :: _ => (exponent? left).map fun (e, left) => (fraction, e, left)
        | left => some (fraction, 0, left)
      | left => (exponent? left).map fun (e, left) => ([], e, left)
    if !negative && overflows (Digits.value 10 (ds ++ fraction)) (exponent - fraction.length)
    then none
    else some (.float (s.take (s.length - left.length)), left)

def fixed? (count lo hi : Nat) (s : Text) : Option (Nat × Text) :=
  let ds := s.take count
  let n := Digits.value 10 ds
  if ds.length = count && ds.all Digits.isDecimal && lo ≤ n && n ≤ hi then some (n, s.drop count)
  else none

def expect? (mark : Char) : Text → Option Text
  | [] => none
  | c :: rest => if c = mark then some rest else none

def daysOfMonth (year month : Nat) : Nat :=
  let leap := year % 4 == 0 && (year % 100 != 0 || year % 400 == 0)
  if month = 2 then (if leap then 29 else 28)
  else if month = 4 || month = 6 || month = 9 || month = 11 then 30
  else 31

def date? (s : Text) : Option (Text × Text) := do
  let (year, rest) ← fixed? 4 0 9999 s
  let (month, rest) ← fixed? 2 1 12 (← expect? '-' rest)
  let (_, rest) ← fixed? 2 1 (daysOfMonth year month) (← expect? '-' rest)
  some (s.take 10, rest)

/-- Parts of a second, of which nine digits count, without the zeros at their end. -/
def fraction (digits : Text) : Text :=
  match ((digits.take 9).reverse.dropWhile (· == '0')).reverse with
  | [] => []
  | digits => '.' :: digits

def time? (s : Text) : Option (Text × Text) := do
  let (_, rest) ← fixed? 2 0 23 s
  let (_, rest) ← fixed? 2 0 59 (← expect? ':' rest)
  let (_, rest) ← fixed? 2 0 60 (← expect? ':' rest)
  match rest with
  | '.' :: digits =>
    if digits.head?.any Digits.isDecimal then
      some (s.take 8 ++ fraction (digits.takeWhile Digits.isDecimal),
        digits.dropWhile Digits.isDecimal)
    else none
  | rest => some (s.take 8, rest)

/-- A distance from universal time, which may be missing. No distance is shown with a plus. -/
def zone? (s : Text) : Option (Text × Text) :=
  match s with
  | 'Z' :: rest => some (['Z'], rest)
  | 'z' :: rest => some (['Z'], rest)
  | c :: rest =>
    if c = '+' || c = '-' then do
      let (hours, left) ← fixed? 2 0 23 rest
      let (minutes, left) ← fixed? 2 0 59 (← expect? ':' left)
      let sign := if hours = 0 && minutes = 0 then '+' else c
      some (sign :: rest.take 5, left)
    else some ([], c :: rest)
  | [] => some ([], [])

def moment? (s : Text) : Option (Toml × Text) := do
  let (shown, left) ← match date? s with
    | some (date, left) =>
      match left with
      | c :: rest =>
        if c = 'T' || c = 't' || c = ' ' then
          match time? rest with
          | some (time, left) =>
            (zone? left).map fun (zone, left) => (date ++ 'T' :: time ++ zone, left)
          | none => some (date, left)
        else some (date, left)
      | [] => some (date, [])
    | none => time? s
  some (.moment shown, left)

/-- Zeros at the end of a fraction are not shown, nor is a distance of nothing to the west. -/
example : moment? "1979-05-27 07:32:00.120-00:00 x".toList =
    some (.moment "1979-05-27T07:32:00.12+00:00".toList, " x".toList) := by rfl

def boolean? (s : Text) : Option (Toml × Text) :=
  match s with
  | 't' :: 'r' :: 'u' :: 'e' :: rest => some (.boolean true, rest)
  | 'f' :: 'a' :: 'l' :: 's' :: 'e' :: rest => some (.boolean false, rest)
  | _ => none

def parse? (s : Text) : Option (Toml × Text) :=
  boolean? s <|> moment? s <|> float? s <|> integer? s

end Scalar

end Highlighting.Toml
