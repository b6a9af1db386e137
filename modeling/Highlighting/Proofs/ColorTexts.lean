import Highlighting.Color
import Highlighting.Proofs.Boundary

/-! Which texts name a color. A text behind `#` is read by byte offsets: its size in bytes decides how
many digits it has, and six digits are cut two bytes at a time. Both is right only because a text of
hexadecimal digits has as many bytes as characters; all others are refused before they are measured. -/
namespace Highlighting

namespace Digits

def Stands (c : Char) (d : Nat) : Prop :=
  d < 16 ∧ (c = Nat.digitChar d ∨ c = (Nat.digitChar d).toUpper)

instance (c : Char) (d : Nat) : Decidable (Stands c d) := inferInstanceAs (Decidable (_ ∧ _))

theorem ascii_of_hex? {c : Char} {d : Nat} (read : hex? c = some d) : c.toNat < 0x80 := by
  have below {top : Char} (le : c ≤ top) (small : top.toNat < 0x80) : c.toNat < 0x80 :=
    Nat.lt_of_le_of_lt (UInt32.le_iff_toNat_le.mp le) small
  unfold hex? at read
  split at read
  next range => exact below range.2 (by decide)
  split at read
  next range => exact below range.2 (by decide)
  split at read
  next range => exact below range.2 (by decide)
  contradiction

theorem hex?_eq_some_iff {c : Char} {d : Nat} : hex? c = some d ↔ Stands c d := by
  constructor
  · intro read
    have table : ∀ n < 0x80, ∀ d ∈ hex? (Char.ofNat n), Stands (Char.ofNat n) d := by decide
    have stands := table c.toNat (ascii_of_hex? read) d
    rw [Char.ofNat_toNat] at stands
    exact stands read
  · rintro ⟨small,rfl | rfl⟩ <;> decide +revert

theorem isHex_iff {c : Char} : isHex c ↔ ∃ d, Stands c d := by
  simp only [isHex,Option.isSome_iff_exists,hex?_eq_some_iff]

theorem Stands.unique {c : Char} {d e : Nat} (stands : Stands c d) (other : Stands c e) : d = e :=
  Option.some.inj ((hex?_eq_some_iff.mpr stands).symm.trans (hex?_eq_some_iff.mpr other))

theorem exists_stands_iff {c : Char} :
    (∃ d, Stands c d) ↔ c ∈ "0123456789abcdefABCDEF".toList := by
  constructor
  · rintro ⟨d,small,rfl | rfl⟩ <;> decide +revert
  · intro member
    have table : "0123456789abcdefABCDEF".toList.all isHex = true := by decide
    exact isHex_iff.mp (List.all_eq_true.mp table c member)

theorem utf8Size_of_isHex {c : Char} (digit : isHex c) : c.utf8Size = 1 := by
  obtain ⟨d,read⟩ := Option.isSome_iff_exists.mp digit
  exact Char.utf8Size_eq_one_iff.mpr
    (UInt32.le_iff_toNat_le.mpr (Nat.le_of_lt_succ (ascii_of_hex? read)))

/-- A text of digits has as many bytes as characters. -/
theorem bytes_of_isHex {digits : Text} (all : ∀ c ∈ digits, isHex c) :
    digits.bytes = digits.length := by
  induction digits with
  | nil => rfl
  | cons c digits ih =>
    obtain ⟨first,later⟩ := List.forall_mem_cons.mp all
    rw [Text.bytes_cons,utf8Size_of_isHex first,ih later,List.length_cons,Nat.add_comm]

/-- Without the check that all characters are digits, two bytes need not be a part of the text. -/
example : Text.bytes ['a','é','b','c','d'] = 6 ∧ Text.slice? ['a','é','b','c','d'] 0 2 = none := by
  decide

theorem push?_eq_some_iff {n m : Fin 256} {c : Char} :
    push? n c = some m ↔ ∃ d, Stands c d ∧ m.val = n * 16 + d := by
  simp only [push?,← hex?_eq_some_iff]
  cases hex? c with
  | none => simp
  | some d =>
    by_cases small : n * 16 + d < 256
    · simp [small,Fin.ext_iff,eq_comm]
    · have beyond : m.val ≠ n * 16 + d := fun same => small (same ▸ m.isLt)
      simp [small,beyond]

/-- Two digits write a byte of their own. A sign in front is refused by the first of them. -/
theorem byte?_pair_eq_some_iff {c e : Char} (digit : isHex c) {n : Fin 256} :
    byte? [c,e] = some n ↔ ∃ high low, Stands c high ∧ Stands e low ∧ n.val = high * 16 + low := by
  have unsigned : c ≠ '+' := by
    rintro rfl
    exact absurd digit (by decide)
  have folded : byte? [c,e] = (push? 0 c).bind fun high => push? high e := by
    simp [byte?,unsigned]
  simp only [folded,Option.bind_eq_some_iff,push?_eq_some_iff]
  constructor
  · rintro ⟨first,⟨high,stands,same⟩,low,stands',size⟩
    refine ⟨high,low,stands,stands',?_⟩
    simpa [same] using size
  · rintro ⟨high,low,stands,stands',size⟩
    have small := stands.1
    exact ⟨⟨high,by omega⟩,⟨high,stands,by simp⟩,low,stands',size⟩

/-- A sign by itself is no digit, yet it may stand in front of one. -/
example : byte? ['+','f'] = some 15 ∧ byte? ['-','f'] = none ∧ byte? ['+'] = none := by decide

end Digits

theorem NamedColor.ofName?_eq_some_iff {text : Text} {color : NamedColor} :
    ofName? text = some color ↔ ∃ name, (name,color) ∈ named ∧ text = name.toList := by
  have apart : (named.map (·.1)).Nodup := by decide
  rw [ofName?,List.lookup_eq_some_iff]
  constructor
  · rintro ⟨before,after,same,_⟩
    exact ⟨String.ofList text,by rw [same]; simp,String.toList_ofList.symm⟩
  · rintro ⟨name,member,rfl⟩
    rw [String.ofList_toList]
    obtain ⟨before,after,same⟩ := List.append_of_mem member
    rw [same,List.map_append,List.map_cons] at apart
    obtain ⟨_,_,fresh⟩ := List.nodup_append.mp apart
    refine ⟨before,after,same,fun entry earlier => bne_iff_ne.mpr ?_⟩
    exact (fresh _ (List.mem_map_of_mem earlier) name List.mem_cons_self).symm

namespace Color

open Digits

/-- The channel of one digit, which counts twice. -/
def Doubled (c : Char) (n : Fin 256) : Prop := ∃ d, Stands c d ∧ n.val = d * 17

def Paired (c e : Char) (n : Fin 256) : Prop :=
  ∃ high low, Stands c high ∧ Stands e low ∧ n.val = high * 16 + low

/-- The colors that digits write: three of them with a channel each, or three pairs. -/
inductive Written : Text → Color → Prop where
  | short {a b c red green blue} : Doubled a red → Doubled b green → Doubled c blue →
      Written [a,b,c] (.rgb red green blue)
  | long {a a' b b' c c' red green blue} : Paired a a' red → Paired b b' green → Paired c c' blue →
      Written [a,a',b,b',c,c'] (.rgb red green blue)

theorem doubled?_eq_some_iff {c : Char} {n : Fin 256} : doubled? c = some n ↔ Doubled c n := by
  simp only [doubled?,Option.map_eq_some_iff,hex?_eq_some_iff,Doubled]
  refine exists_congr fun d => and_congr_right fun stands => ?_
  have small : d * 17 < 256 := by have := stands.1; omega
  simp only [Fin.ext_iff,Nat.mod_eq_of_lt small]
  exact eq_comm

theorem paired_self_iff {c : Char} {n : Fin 256} : Paired c c n ↔ Doubled c n := by
  constructor
  · rintro ⟨high,low,stands,stands',size⟩
    cases stands.unique stands'
    exact ⟨high,stands,by omega⟩
  · rintro ⟨d,stands,size⟩
    exact ⟨d,d,stands,stands,by omega⟩

theorem written_short_iff {a b c : Char} {color : Color} :
    Written [a,b,c] color ↔ ∃ red green blue, Doubled a red ∧ Doubled b green ∧ Doubled c blue ∧
      rgb red green blue = color := by
  constructor
  · intro written
    cases written with
    | short first second third => exact ⟨_,_,_,first,second,third,rfl⟩
  · rintro ⟨_,_,_,first,second,third,rfl⟩
    exact .short first second third

theorem written_long_iff {a a' b b' c c' : Char} {color : Color} :
    Written [a,a',b,b',c,c'] color ↔ ∃ red green blue, Paired a a' red ∧ Paired b b' green ∧
      Paired c c' blue ∧ rgb red green blue = color := by
  constructor
  · intro written
    cases written with
    | long first second third => exact ⟨_,_,_,first,second,third,rfl⟩
  · rintro ⟨_,_,_,first,second,third,rfl⟩
    exact .long first second third

theorem written_twice_iff {a b c : Char} {color : Color} :
    Written [a,a,b,b,c,c] color ↔ Written [a,b,c] color := by
  simp only [written_long_iff,written_short_iff,paired_self_iff]

theorem Doubled.exists_iff {c : Char} : (∃ n, Doubled c n) ↔ isHex c := by
  rw [isHex_iff]
  constructor
  · rintro ⟨_,d,stands,_⟩
    exact ⟨d,stands⟩
  · rintro ⟨d,stands⟩
    exact ⟨⟨d * 17,by have := stands.1; omega⟩,d,stands,rfl⟩

theorem Paired.exists_iff {c e : Char} : (∃ n, Paired c e n) ↔ isHex c ∧ isHex e := by
  simp only [isHex_iff]
  constructor
  · rintro ⟨_,high,low,stands,stands',_⟩
    exact ⟨⟨high,stands⟩,low,stands'⟩
  · rintro ⟨⟨high,stands⟩,low,stands'⟩
    have room : high * 16 + low < 256 := by have := stands.1; have := stands'.1; omega
    exact ⟨⟨_,room⟩,high,low,stands,stands',rfl⟩

theorem exists_of_length_six {digits : Text} (six : digits.length = 6) :
    ∃ a a' b b' c c', digits = [a,a',b,b',c,c'] :=
  match digits, six with
  | [a,a',b,b',c,c'], _ => ⟨a,a',b,b',c,c',rfl⟩

theorem exists_written_iff {digits : Text} :
    (∃ color, Written digits color) ↔
      (digits.length = 3 ∨ digits.length = 6) ∧ ∀ c ∈ digits, isHex c := by
  constructor
  · rintro ⟨_,written⟩
    cases written with
    | short first second third =>
      refine ⟨.inl rfl,?_⟩
      simp [Doubled.exists_iff.mp ⟨_,first⟩,Doubled.exists_iff.mp ⟨_,second⟩,
        Doubled.exists_iff.mp ⟨_,third⟩]
    | long first second third =>
      refine ⟨.inr rfl,?_⟩
      simp [Paired.exists_iff.mp ⟨_,first⟩,Paired.exists_iff.mp ⟨_,second⟩,
        Paired.exists_iff.mp ⟨_,third⟩]
  · rintro ⟨three | six,all⟩
    · obtain ⟨a,b,c,rfl⟩ := List.length_eq_three.mp three
      simp only [List.forall_mem_cons] at all
      obtain ⟨_,first⟩ := Doubled.exists_iff.mpr all.1
      obtain ⟨_,second⟩ := Doubled.exists_iff.mpr all.2.1
      obtain ⟨_,third⟩ := Doubled.exists_iff.mpr all.2.2.1
      exact ⟨_,.short first second third⟩
    · obtain ⟨a,a',b,b',c,c',rfl⟩ := exists_of_length_six six
      simp only [List.forall_mem_cons] at all
      obtain ⟨first,first',second,second',third,third',_⟩ := all
      obtain ⟨_,first⟩ := Paired.exists_iff.mpr ⟨first,first'⟩
      obtain ⟨_,second⟩ := Paired.exists_iff.mpr ⟨second,second'⟩
      obtain ⟨_,third⟩ := Paired.exists_iff.mpr ⟨third,third'⟩
      exact ⟨_,.long first second third⟩

theorem ofShort?_eq_some_iff {a b c : Char} {color : Color} :
    ofShort? [a,b,c] = some color ↔ Written [a,b,c] color := by
  simp [ofShort?,written_short_iff,doubled?_eq_some_iff,Option.bind_eq_some_iff]

/-- Two digits behind some others are a part of the text by their number, whatever follows. -/
theorem channelAt_eq (before after : Text) {c e : Char} (digits : ∀ d ∈ before ++ [c,e], isHex d) :
    channelAt (before ++ ([c,e] ++ after)) before.length (before.length + 2) =
      OptionT.mk (.ok (byte? [c,e])) := by
  obtain ⟨first,second⟩ := List.forall_mem_append.mp digits
  have size : Text.bytes [c,e] = 2 := bytes_of_isHex second
  have part : Text.slice? (before ++ ([c,e] ++ after)) before.length (before.length + 2) =
      some [c,e] :=
    Text.slice?_eq_some_iff.mpr ⟨before,after,rfl,bytes_of_isHex first,by rw [size]⟩
  rw [channelAt,part]

theorem ofLong_run {a a' b b' c c' : Char} (digits : ∀ d ∈ [a,a',b,b',c,c'], isHex d) :
    (ofLong [a,a',b,b',c,c']).run = .ok (do
      let red ← byte? [a,a']
      let green ← byte? [b,b']
      let blue ← byte? [c,c']
      return rgb red green blue) := by
  have first : channelAt [a,a',b,b',c,c'] 0 2 = OptionT.mk (.ok (byte? [a,a'])) :=
    channelAt_eq [] _ fun d member => digits d (List.mem_append_left [b,b',c,c'] member)
  have second : channelAt [a,a',b,b',c,c'] 2 4 = OptionT.mk (.ok (byte? [b,b'])) :=
    channelAt_eq [a,a'] _ fun d member => digits d (List.mem_append_left [c,c'] member)
  have third : channelAt [a,a',b,b',c,c'] 4 6 = OptionT.mk (.ok (byte? [c,c'])) :=
    channelAt_eq [a,a',b,b'] [] digits
  simp only [ofLong,first,second,third]
  cases byte? [a,a'] <;> cases byte? [b,b'] <;> cases byte? [c,c'] <;> rfl

/-- Three or six digits and nothing else are read as a color, and reading always ends. -/
theorem ofDigits_run (digits : Text) :
    ∃ answer, (ofDigits digits).run = .ok answer ∧
      ∀ color, answer = some color ↔ Written digits color := by
  have refused (unwritten : ¬ ∃ color, Written digits color) :
      ∀ color, none = some color ↔ Written digits color := by
    simpa using unwritten
  by_cases all : ∀ c ∈ digits, isHex c
  · have size : digits.bytes = digits.length := bytes_of_isHex all
    unfold ofDigits
    rw [if_pos (List.all_eq_true.mpr all)]
    split
    next three =>
      obtain ⟨a,b,c,rfl⟩ := List.length_eq_three.mp (size.symm.trans three)
      exact ⟨ofShort? [a,b,c],rfl,fun _ => ofShort?_eq_some_iff⟩
    next six =>
      obtain ⟨a,a',b,b',c,c',rfl⟩ := exists_of_length_six (size.symm.trans six)
      refine ⟨_,ofLong_run all,fun color => ?_⟩
      simp only [List.forall_mem_cons] at all
      simp [written_long_iff,Option.bind_eq_some_iff,Paired,byte?_pair_eq_some_iff,all]
    next three six =>
      refine ⟨none,rfl,refused fun written => ?_⟩
      rcases (exists_written_iff.mp written).1 with length | length
      · exact three (size.trans length)
      · exact six (size.trans length)
  · exact ⟨none,congrArg OptionT.run (if_neg (mt List.all_eq_true.mp all)),
      refused fun written => all (exists_written_iff.mp written).2⟩

theorem read_of_hash {value digits : Text} (hash : Text.trim value = '#' :: digits) :
    read value = (ofDigits digits).run := by
  simp only [read,hash]

theorem read_of_name {value : Text} (name : ∀ digits, Text.trim value ≠ '#' :: digits) :
    read value = .ok ((NamedColor.ofName? (Text.lower (Text.trim value))).map .named) := by
  unfold read
  split
  next digits hash => exact absurd hash (name digits)
  next => rfl

/-- Reading never asks for a part of a text that is not there. -/
theorem read_eq (value : Text) : read value = .ok (parse? value) := by
  have answered : ∃ answer, read value = .ok answer := by
    by_cases hash : ∃ digits, Text.trim value = '#' :: digits
    · obtain ⟨digits,hash⟩ := hash
      obtain ⟨answer,run,_⟩ := ofDigits_run digits
      exact ⟨answer,(read_of_hash hash).trans run⟩
    · exact ⟨_,read_of_name fun digits same => hash ⟨digits,same⟩⟩
  obtain ⟨answer,run⟩ := answered
  rw [parse?,run]
  simp [Except.toOption]

theorem parse?_of_hash {value digits : Text} (hash : Text.trim value = '#' :: digits)
    (color : Color) : parse? value = some color ↔ Written digits color := by
  obtain ⟨answer,run,written⟩ := ofDigits_run digits
  rw [← written,Except.ok.inj ((read_eq value).symm.trans ((read_of_hash hash).trans run))]

theorem parse?_of_name {value : Text} (name : ∀ digits, Text.trim value ≠ '#' :: digits) :
    parse? value = (NamedColor.ofName? (Text.lower (Text.trim value))).map .named :=
  Except.ok.inj ((read_eq value).symm.trans (read_of_name name))

/-- Every text is read, and none is cut but at its boundaries. Behind `#`, without the white space
around, exactly three or six hexadecimal digits in any case make a color, the three as if each of them
stood twice. A text without `#` makes the color whose name it is in lower case. All others make none. -/
theorem read_exact (value : Text) :
    read value = .ok (parse? value) ∧
    (∀ digits, Text.trim value = '#' :: digits →
      (∀ color, parse? value = some color ↔ Written digits color) ∧
      ((∃ red green blue, parse? value = some (.rgb red green blue)) ↔
        (digits.length = 3 ∨ digits.length = 6) ∧
          ∀ c ∈ digits, c ∈ "0123456789abcdefABCDEF".toList) ∧
      ∀ longer a b c, digits = [a,b,c] → Text.trim longer = ['#',a,a,b,b,c,c] →
        parse? longer = parse? value) ∧
    ((∀ digits, Text.trim value ≠ '#' :: digits) → ∀ color,
      parse? value = some color ↔
        ∃ name named, (name,named) ∈ NamedColor.named ∧
          Text.lower (Text.trim value) = name.toList ∧ color = .named named) := by
  refine ⟨read_eq value,fun digits hash => ⟨parse?_of_hash hash,?_,?_⟩,fun name color => ?_⟩
  · simp only [← exists_stands_iff,← isHex_iff,← exists_written_iff,parse?_of_hash hash]
    constructor
    · rintro ⟨_,_,_,written⟩
      exact ⟨_,written⟩
    · rintro ⟨color,written⟩
      cases written with
      | short first second third => exact ⟨_,_,_,.short first second third⟩
      | long first second third => exact ⟨_,_,_,.long first second third⟩
  · rintro longer a b c rfl twice
    refine Option.ext fun color => ?_
    rw [parse?_of_hash hash,parse?_of_hash twice,written_twice_iff]
  · rw [parse?_of_name name,Option.map_eq_some_iff]
    simp only [NamedColor.ofName?_eq_some_iff]
    constructor
    · rintro ⟨named,⟨name,member,same⟩,rfl⟩
      exact ⟨name,named,member,same,rfl⟩
    · rintro ⟨name,named,member,same,rfl⟩
      exact ⟨named,⟨name,member,same⟩,rfl⟩

/-- White space around three digits is passed over, and either case is read. A sign in place of a digit
is refused, and so are six bytes that are no six characters. -/
theorem read_exact_values :
    Text.trim [' ','#','B','b','F','\n'] = ['#','B','b','F'] ∧
    Text.trim ['#','B','B','b','b','F','F'] = ['#','B','B','b','b','F','F'] ∧
    Text.trim ['#','+','f','+','f','+','f'] = ['#','+','f','+','f','+','f'] ∧
    Text.trim ['#','1','é','2','3','4'] = ['#','1','é','2','3','4'] ∧
    Text.trim ['R','e','d','\t'] = ['R','e','d'] ∧
    read [' ','#','B','b','F','\n'] = .ok (some (.rgb 187 187 255)) ∧
    parse? ['#','B','B','b','b','F','F'] = some (.rgb 187 187 255) ∧
    read ['#','+','f','+','f','+','f'] = .ok none ∧ read ['#','1','é','2','3','4'] = .ok none ∧
    parse? ['R','e','d','\t'] = some (.named .red) := by
  have trimmed : Text.trim [' ','#','B','b','F','\n'] = ['#','B','b','F'] ∧
      Text.trim ['#','B','B','b','b','F','F'] = ['#','B','B','b','b','F','F'] ∧
      Text.trim ['#','+','f','+','f','+','f'] = ['#','+','f','+','f','+','f'] ∧
      Text.trim ['#','1','é','2','3','4'] = ['#','1','é','2','3','4'] ∧
      Text.trim ['R','e','d','\t'] = ['R','e','d'] := by
    decide
  obtain ⟨short,long,signed,wide,name⟩ := trimmed
  have written : Written ['B','b','F'] (.rgb 187 187 255) :=
    .short ⟨11,by decide,rfl⟩ ⟨11,by decide,rfl⟩ ⟨15,by decide,rfl⟩
  have refused {value digits : Text} (hash : Text.trim value = '#' :: digits)
      (other : digits.all isHex = false) : read value = .ok none := by
    obtain ⟨read,behind,_⟩ := read_exact value
    refine read.trans (congrArg _ (Option.eq_none_iff_forall_ne_some.mpr fun color named => ?_))
    have all := (exists_written_iff.mp ⟨color,((behind digits hash).1 color).mp named⟩).2
    exact absurd (List.all_eq_true.mpr all) (by simp [other])
  obtain ⟨read,behind,_⟩ := read_exact [' ','#','B','b','F','\n']
  obtain ⟨colors,_,twice⟩ := behind _ short
  have color := (colors _).mpr written
  obtain ⟨_,_,names⟩ := read_exact ['R','e','d','\t']
  refine ⟨short,long,signed,wide,name,read.trans (congrArg _ color),
    (twice _ _ _ _ rfl long).trans color,refused signed (by decide),refused wide (by decide),?_⟩
  refine (names (by simp [name]) _).mpr ⟨"red",.red,by decide,?_,rfl⟩
  rw [name,Text.lower_ascii (by decide)]
  rfl

end Color

end Highlighting
