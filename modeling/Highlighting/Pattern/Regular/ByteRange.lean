/-!
Characters as sequences of bytes.

The UTF-8 forms of the characters between two code points are split into sequences of ranges of
bytes, so that a form belongs to a sequence if each of its bytes lies in the range at its place.
The sequences come in ascending order.
-/
namespace Highlighting.Pattern

structure ByteRange where
  first : Nat
  last : Nat
  deriving DecidableEq, Repr

namespace ByteRange

def bytesOf (code : Nat) : List Nat :=
  let more (shift : Nat) : Nat := 0x80 + code / Nat.pow 64 shift % 64
  if code < 0x80 then [code]
  else if code < 0x800 then [0xC0 + code / 64, more 0]
  else if code < 0x10000 then [0xE0 + code / 4096, more 1, more 0]
  else [0xF0 + code / 262144, more 2, more 1, more 0]

/-- The last code point before a place where the forms from `lo` to `hi` must be split, since
their bytes behind one of the first places do not run through all values. -/
def splitPoint? (lo hi : Nat) : Option Nat :=
  [64, 4096, 262144].findSome? fun block =>
    if lo / block = hi / block then none
    else if lo % block ≠ 0 then some (lo / block * block + (block - 1))
    else if hi % block ≠ block - 1 then some (hi / block * block - 1)
    else none

/-- The sequences for the code points from `lo` to `hi`, without surrogates. Every step splits
the code points at another of a few places, which bounds the `fuel` that is needed. -/
def split : Nat → Nat → Nat → List (List ByteRange)
  | 0, _, _ => []
  | fuel + 1, lo, hi =>
    if hi < lo then []
    else if lo < 0xE000 && 0xD7FF < hi then split fuel lo 0xD7FF ++ split fuel 0xE000 hi
    else
      match [0x7F, 0x7FF, 0xFFFF].find? fun last => lo ≤ last && last < hi with
      | some last => split fuel lo last ++ split fuel (last + 1) hi
      | none =>
        if hi < 0x80 then [[⟨lo, hi⟩]]
        else
          match splitPoint? lo hi with
          | some last => split fuel lo last ++ split fuel (last + 1) hi
          | none => [(bytesOf lo).zipWith ByteRange.mk (bytesOf hi)]

def sequences (lo hi : Nat) : List (List ByteRange) := split 64 lo hi

end ByteRange

end Highlighting.Pattern
