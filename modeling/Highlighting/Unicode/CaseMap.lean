import Highlighting.Unicode.Runs

/-!
Case relations between single characters: those of Unicode 16.0 for matching regardless of case,
and those of Unicode 17.0 for lowering.

A relation is a list of rows. A row `⟨first, last, step, image⟩` sends every `step`-th code point
from `first` through `last` to the code point as far behind `image` as it is behind `first`.
Two characters match regardless of case when `folded` sends them to one character.
-/
namespace Highlighting.Unicode

structure CaseRow where
  first : Nat
  last : Nat
  step : Nat
  image : Nat

namespace CaseRow

def ofNumbers : List Nat → List CaseRow
  | first :: last :: step :: image :: rest => ⟨first, last, step, image⟩ :: ofNumbers rest
  | _ => []

def image? (row : CaseRow) (code : Nat) : Option Nat :=
  if row.first ≤ code && code ≤ row.last && (code - row.first) % row.step == 0 then
    some (row.image + (code - row.first))
  else
    none

def preimage? (row : CaseRow) (code : Nat) : Option Nat :=
  let source := row.first + (code - row.image)
  if row.image ≤ code && row.image? source == some code then some source else none

/-- The image under the first row that mentions the code point; other code points stay. -/
def apply (rows : List CaseRow) (code : Nat) : Nat :=
  (rows.findSome? (·.image? code)).getD code

theorem le_of_image? {row : CaseRow} {code image : Nat} (mentioned : row.image? code = some image) :
    row.image ≤ image := by
  rw [image?] at mentioned
  split at mentioned
  · rw [← Option.some.inj mentioned]
    exact Nat.le_add_right _ _
  · contradiction

theorem apply_eq_or_le {rows : List CaseRow} {bound : Nat} (images : ∀ row ∈ rows, bound ≤ row.image)
    (code : Nat) : apply rows code = code ∨ bound ≤ apply rows code := by
  rw [apply]
  cases found : rows.findSome? (·.image? code) with
  | none => exact .inl rfl
  | some image =>
    obtain ⟨row, member, mentioned⟩ := List.exists_of_findSome?_eq_some found
    exact .inr (Nat.le_trans (images row member) (le_of_image? mentioned))

end CaseRow

/-- Sends a character to the one that stands for all its case variants. -/
def foldRows : List CaseRow := CaseRow.ofNumbers <| numbersOfText
  "41 5a 1 61 c0 d6 1 e0 d8 de 1 f8 100 12e 2 101 132 136 2 133 139 147 2 13a 14a 176 2 14b 178
  178 1 ff 179 17d 2 17a 17f 17f 1 73 181 181 1 253 182 184 2 183 186 186 1 254 187 187 1 188
  189 18a 1 256 18b 18b 1 18c 18e 18e 1 1dd 18f 18f 1 259 190 190 1 25b 191 191 1 192 193 193
  1 260 194 194 1 263 196 196 1 269 197 197 1 268 198 198 1 199 19c 19c 1 26f 19d 19d 1 272
  19f 19f 1 275 1a0 1a4 2 1a1 1a6 1a6 1 280 1a7 1a7 1 1a8 1a9 1a9 1 283 1ac 1ac 1 1ad 1ae 1ae
  1 288 1af 1af 1 1b0 1b1 1b2 1 28a 1b3 1b5 2 1b4 1b7 1b7 1 292 1b8 1b8 1 1b9 1bc 1bc 1 1bd
  1c4 1c4 1 1c6 1c5 1c5 1 1c6 1c7 1c7 1 1c9 1c8 1c8 1 1c9 1ca 1ca 1 1cc 1cb 1db 2 1cc 1de 1ee
  2 1df 1f1 1f1 1 1f3 1f2 1f4 2 1f3 1f6 1f6 1 195 1f7 1f7 1 1bf 1f8 21e 2 1f9 220 220 1 19e
  222 232 2 223 23a 23a 1 2c65 23b 23b 1 23c 23d 23d 1 19a 23e 23e 1 2c66 241 241 1 242 243
  243 1 180 244 244 1 289 245 245 1 28c 246 24e 2 247 370 372 2 371 376 376 1 377 37f 37f 1
  3f3 386 386 1 3ac 388 38a 1 3ad 38c 38c 1 3cc 38e 38f 1 3cd 391 398 1 3b1 399 399 1 345 39a
  39b 1 3ba 39c 39c 1 b5 39d 3ab 2 3bd 39e 3a0 2 3be 3a4 3aa 2 3c4 3b9 3b9 1 345 3bc 3bc 1 b5
  3c2 3c2 1 3c3 3cf 3cf 1 3d7 3d0 3d0 1 3b2 3d1 3d1 1 3b8 3d5 3d5 1 3c6 3d6 3d6 1 3c0 3d8 3ee
  2 3d9 3f0 3f0 1 3ba 3f1 3f1 1 3c1 3f4 3f4 1 3b8 3f5 3f5 1 3b5 3f7 3f7 1 3f8 3f9 3f9 1 3f2
  3fa 3fa 1 3fb 3fd 3ff 1 37b 400 40f 1 450 410 42f 1 430 460 480 2 461 48a 4be 2 48b 4c0 4c0
  1 4cf 4c1 4cd 2 4c2 4d0 52e 2 4d1 531 556 1 561 10a0 10c5 1 2d00 10c7 10c7 1 2d27 10cd 10cd
  1 2d2d 13a0 13ef 1 ab70 13f0 13f5 1 13f8 1c80 1c80 1 432 1c81 1c81 1 434 1c82 1c82 1 43e
  1c83 1c84 1 441 1c85 1c85 1 442 1c86 1c86 1 44a 1c87 1c87 1 463 1c89 1c89 1 1c8a 1c90 1cba 1
  10d0 1cbd 1cbf 1 10fd 1e00 1e94 2 1e01 1e9b 1e9b 1 1e61 1e9e 1e9e 1 df 1ea0 1efe 2 1ea1 1f08
  1f0f 1 1f00 1f18 1f1d 1 1f10 1f28 1f2f 1 1f20 1f38 1f3f 1 1f30 1f48 1f4d 1 1f40 1f59 1f5f 2
  1f51 1f68 1f6f 1 1f60 1f88 1f8f 1 1f80 1f98 1f9f 1 1f90 1fa8 1faf 1 1fa0 1fb8 1fb9 1 1fb0
  1fba 1fbb 1 1f70 1fbc 1fbc 1 1fb3 1fbe 1fbe 1 345 1fc8 1fcb 1 1f72 1fcc 1fcc 1 1fc3 1fd3
  1fd3 1 390 1fd8 1fd9 1 1fd0 1fda 1fdb 1 1f76 1fe3 1fe3 1 3b0 1fe8 1fe9 1 1fe0 1fea 1feb 1
  1f7a 1fec 1fec 1 1fe5 1ff8 1ff9 1 1f78 1ffa 1ffb 1 1f7c 1ffc 1ffc 1 1ff3 2126 2126 1 3c9
  212a 212a 1 6b 212b 212b 1 e5 2132 2132 1 214e 2160 216f 1 2170 2183 2183 1 2184 24b6 24cf 1
  24d0 2c00 2c2f 1 2c30 2c60 2c60 1 2c61 2c62 2c62 1 26b 2c63 2c63 1 1d7d 2c64 2c64 1 27d 2c67
  2c6b 2 2c68 2c6d 2c6d 1 251 2c6e 2c6e 1 271 2c6f 2c6f 1 250 2c70 2c70 1 252 2c72 2c72 1 2c73
  2c75 2c75 1 2c76 2c7e 2c7f 1 23f 2c80 2ce2 2 2c81 2ceb 2ced 2 2cec 2cf2 2cf2 1 2cf3 a640
  a648 2 a641 a64a a64a 1 1c88 a64b a64b 1 1c88 a64c a66c 2 a64d a680 a69a 2 a681 a722 a72e 2
  a723 a732 a76e 2 a733 a779 a77b 2 a77a a77d a77d 1 1d79 a77e a786 2 a77f a78b a78b 1 a78c
  a78d a78d 1 265 a790 a792 2 a791 a796 a7a8 2 a797 a7aa a7aa 1 266 a7ab a7ab 1 25c a7ac a7ac
  1 261 a7ad a7ad 1 26c a7ae a7ae 1 26a a7b0 a7b0 1 29e a7b1 a7b1 1 287 a7b2 a7b2 1 29d a7b3
  a7b3 1 ab53 a7b4 a7c2 2 a7b5 a7c4 a7c4 1 a794 a7c5 a7c5 1 282 a7c6 a7c6 1 1d8e a7c7 a7c9 2
  a7c8 a7cb a7cb 1 264 a7cc a7cc 1 a7cd a7d0 a7d0 1 a7d1 a7d6 a7da 2 a7d7 a7dc a7dc 1 19b a7f5
  a7f5 1 a7f6 fb06 fb06 1 fb05 ff21 ff3a 1 ff41 10400 10427 1 10428 104b0 104d3 1 104d8 10570
  10594 2 10597 10571 10579 2 10598 1057d 10589 2 105a4 1058d 10591 2 105b4 10595 10595 1
  105bc 10c80 10cb2 1 10cc0 10d50 10d65 1 10d70 118a0 118bf 1 118c0 16e40 16e5f 1 16e60 1e900
  1e921 1 1e922"

/-- Sends a letter to its lower case form, where that is one character. -/
def lowerRows : List CaseRow := CaseRow.ofNumbers <| numbersOfText
  "41 5a 1 61 c0 d6 1 e0 d8 de 1 f8 100 12e 2 101 132 136 2 133 139 147 2 13a 14a 176 2 14b 178
  178 1 ff 179 17d 2 17a 181 181 1 253 182 184 2 183 186 186 1 254 187 187 1 188 189 18a 1 256
  18b 18b 1 18c 18e 18e 1 1dd 18f 18f 1 259 190 190 1 25b 191 191 1 192 193 193 1 260 194 194
  1 263 196 196 1 269 197 197 1 268 198 198 1 199 19c 19c 1 26f 19d 19d 1 272 19f 19f 1 275
  1a0 1a4 2 1a1 1a6 1a6 1 280 1a7 1a7 1 1a8 1a9 1a9 1 283 1ac 1ac 1 1ad 1ae 1ae 1 288 1af 1af
  1 1b0 1b1 1b2 1 28a 1b3 1b5 2 1b4 1b7 1b7 1 292 1b8 1b8 1 1b9 1bc 1bc 1 1bd 1c4 1c4 1 1c6
  1c5 1c5 1 1c6 1c7 1c7 1 1c9 1c8 1c8 1 1c9 1ca 1ca 1 1cc 1cb 1db 2 1cc 1de 1ee 2 1df 1f1 1f1
  1 1f3 1f2 1f4 2 1f3 1f6 1f6 1 195 1f7 1f7 1 1bf 1f8 21e 2 1f9 220 220 1 19e 222 232 2 223
  23a 23a 1 2c65 23b 23b 1 23c 23d 23d 1 19a 23e 23e 1 2c66 241 241 1 242 243 243 1 180 244
  244 1 289 245 245 1 28c 246 24e 2 247 370 372 2 371 376 376 1 377 37f 37f 1 3f3 386 386 1
  3ac 388 38a 1 3ad 38c 38c 1 3cc 38e 38f 1 3cd 391 3a1 1 3b1 3a3 3ab 1 3c3 3cf 3cf 1 3d7 3d8
  3ee 2 3d9 3f4 3f4 1 3b8 3f7 3f7 1 3f8 3f9 3f9 1 3f2 3fa 3fa 1 3fb 3fd 3ff 1 37b 400 40f 1
  450 410 42f 1 430 460 480 2 461 48a 4be 2 48b 4c0 4c0 1 4cf 4c1 4cd 2 4c2 4d0 52e 2 4d1 531
  556 1 561 10a0 10c5 1 2d00 10c7 10c7 1 2d27 10cd 10cd 1 2d2d 13a0 13ef 1 ab70 13f0 13f5 1
  13f8 1c89 1c89 1 1c8a 1c90 1cba 1 10d0 1cbd 1cbf 1 10fd 1e00 1e94 2 1e01 1e9e 1e9e 1 df 1ea0
  1efe 2 1ea1 1f08 1f0f 1 1f00 1f18 1f1d 1 1f10 1f28 1f2f 1 1f20 1f38 1f3f 1 1f30 1f48 1f4d 1
  1f40 1f59 1f5f 2 1f51 1f68 1f6f 1 1f60 1f88 1f8f 1 1f80 1f98 1f9f 1 1f90 1fa8 1faf 1 1fa0
  1fb8 1fb9 1 1fb0 1fba 1fbb 1 1f70 1fbc 1fbc 1 1fb3 1fc8 1fcb 1 1f72 1fcc 1fcc 1 1fc3 1fd8
  1fd9 1 1fd0 1fda 1fdb 1 1f76 1fe8 1fe9 1 1fe0 1fea 1feb 1 1f7a 1fec 1fec 1 1fe5 1ff8 1ff9 1
  1f78 1ffa 1ffb 1 1f7c 1ffc 1ffc 1 1ff3 2126 2126 1 3c9 212a 212a 1 6b 212b 212b 1 e5 2132
  2132 1 214e 2160 216f 1 2170 2183 2183 1 2184 24b6 24cf 1 24d0 2c00 2c2f 1 2c30 2c60 2c60 1
  2c61 2c62 2c62 1 26b 2c63 2c63 1 1d7d 2c64 2c64 1 27d 2c67 2c6b 2 2c68 2c6d 2c6d 1 251 2c6e
  2c6e 1 271 2c6f 2c6f 1 250 2c70 2c70 1 252 2c72 2c72 1 2c73 2c75 2c75 1 2c76 2c7e 2c7f 1 23f
  2c80 2ce2 2 2c81 2ceb 2ced 2 2cec 2cf2 2cf2 1 2cf3 a640 a66c 2 a641 a680 a69a 2 a681 a722
  a72e 2 a723 a732 a76e 2 a733 a779 a77b 2 a77a a77d a77d 1 1d79 a77e a786 2 a77f a78b a78b 1
  a78c a78d a78d 1 265 a790 a792 2 a791 a796 a7a8 2 a797 a7aa a7aa 1 266 a7ab a7ab 1 25c a7ac
  a7ac 1 261 a7ad a7ad 1 26c a7ae a7ae 1 26a a7b0 a7b0 1 29e a7b1 a7b1 1 287 a7b2 a7b2 1 29d
  a7b3 a7b3 1 ab53 a7b4 a7c2 2 a7b5 a7c4 a7c4 1 a794 a7c5 a7c5 1 282 a7c6 a7c6 1 1d8e a7c7
  a7c9 2 a7c8 a7cb a7cb 1 264 a7cc a7da 2 a7cd a7dc a7dc 1 19b a7f5 a7f5 1 a7f6 ff21 ff3a 1
  ff41 10400 10427 1 10428 104b0 104d3 1 104d8 10570 10594 2 10597 10571 10579 2 10598 1057d
  10589 2 105a4 1058d 10591 2 105b4 10595 10595 1 105bc 10c80 10cb2 1 10cc0 10d50 10d65 1
  10d70 118a0 118bf 1 118c0 16e40 16e5f 1 16e60 16ea0 16eb8 1 16ebb 1e900 1e921 1 1e922"

set_option maxRecDepth 20000 in
theorem lowerRows_ascii :
    ∀ row ∈ lowerRows, (row.first = 0x41 ∧ row.last = 0x5a) ∨ 0x80 ≤ row.first := by
  -- A literal cannot be evaluated as fast as the list of its characters.
  rw [lowerRows, show numbersOfText _ = numbersOfChars none _ from numbersOfText_ofList _]
  decide +kernel

def folded (c : Char) : Char := Char.ofNat (CaseRow.apply foldRows c.toNat)

def caseVariants (c : Char) : List Char :=
  let stand := CaseRow.apply foldRows c.toNat
  (stand :: foldRows.filterMap (·.preimage? stand)).map Char.ofNat

def lowered (c : Char) : Char := Char.ofNat (CaseRow.apply lowerRows c.toNat)

theorem lowered_other {c : Char} (ascii : c.toNat < 0x80)
    (noCapital : ¬ (0x41 ≤ c.toNat ∧ c.toNat ≤ 0x5a)) : lowered c = c := by
  have unmentioned : lowerRows.findSome? (·.image? c.toNat) = none := by
    rw [List.findSome?_eq_none_iff]
    intro row member
    have apart := lowerRows_ascii row member
    rw [CaseRow.image?, if_neg]
    simp only [Bool.and_eq_true, decide_eq_true_eq]
    omega
  rw [lowered, CaseRow.apply, unmentioned, Option.getD_none, Char.ofNat_toNat]

set_option maxRecDepth 20000 in
theorem lowerRows_first :
    (lowerRows.head?.map fun row => (row.first, row.last, row.step, row.image)) =
      some (0x41, 0x5a, 1, 0x61) := by
  rw [lowerRows, show numbersOfText _ = numbersOfChars none _ from numbersOfText_ofList _]
  decide +kernel

set_option maxRecDepth 20000 in
theorem lowerRows_image : ∀ row ∈ lowerRows, 0x61 ≤ row.image := by
  rw [lowerRows, show numbersOfText _ = numbersOfChars none _ from numbersOfText_ofList _]
  decide +kernel

theorem lowered_eq_iff {c mark : Char} (visible : 0 < mark.toNat) (low : mark.toNat < 0x41) :
    lowered c = mark ↔ c = mark := by
  constructor
  · rintro rfl
    rcases CaseRow.apply_eq_or_le lowerRows_image c.toNat with same | far
    · rw [lowered, same, Char.ofNat_toNat]
    · rw [lowered] at visible low
      generalize CaseRow.apply lowerRows c.toNat = image at far visible low
      -- A number that is no character becomes the one with the number zero.
      by_cases valid : image.isValidChar
      · rw [Char.ofNat, dif_pos valid] at low
        exact absurd (Nat.lt_of_le_of_lt far low) (by decide)
      · rw [Char.ofNat, dif_neg valid] at visible
        exact absurd visible (by decide)
  · rintro rfl
    exact lowered_other (by omega) (by omega)

theorem lowered_capital {c : Char} (capital : 0x41 ≤ c.toNat ∧ c.toNat ≤ 0x5a) :
    lowered c = Char.ofNat (c.toNat + 0x20) := by
  obtain ⟨row, first, same⟩ := Option.map_eq_some_iff.mp lowerRows_first
  obtain ⟨rest, rows⟩ := List.head?_eq_some_iff.mp first
  obtain ⟨low, high, step, image⟩ := row
  simp only [Prod.mk.injEq] at same
  obtain ⟨rfl, rfl, rfl, rfl⟩ := same
  have mentioned : CaseRow.image? ⟨0x41, 0x5a, 1, 0x61⟩ c.toNat = some (c.toNat + 0x20) := by
    simp only [CaseRow.image?, Nat.mod_one, capital, decide_true, Bool.and_self, beq_self_eq_true,
      if_true, Option.some.injEq]
    omega
  rw [lowered, CaseRow.apply, rows, List.findSome?_cons, mentioned, Option.getD_some]

theorem toNat_toLower (c : Char) :
    c.toLower.toNat = if 0x41 ≤ c.toNat ∧ c.toNat ≤ 0x5a then c.toNat + 0x20 else c.toNat := by
  have bounds : (c.val ≥ 'A'.val ∧ c.val ≤ 'Z'.val) ↔ 0x41 ≤ c.toNat ∧ c.toNat ≤ 0x5a := Iff.rfl
  unfold Char.toLower
  split
  · next capital =>
    have small : c.val.toNat ≤ 0x5a := (bounds.mp capital).2
    rw [if_pos (bounds.mp capital)]
    change (c.val + 0x20).toNat = c.val.toNat + 0x20
    rw [UInt32.toNat_add]
    exact Nat.mod_eq_of_lt (Nat.lt_of_le_of_lt (Nat.add_le_add_right small 0x20) (by decide))
  · next other => rw [if_neg (mt bounds.mpr other)]

theorem lowered_ascii {c : Char} (ascii : c.toNat < 0x80) : lowered c = c.toLower := by
  rw [← Char.ofNat_toNat c.toLower, toNat_toLower]
  split
  · next capital => exact lowered_capital capital
  · next other => rw [lowered_other ascii other, Char.ofNat_toNat]

end Highlighting.Unicode
