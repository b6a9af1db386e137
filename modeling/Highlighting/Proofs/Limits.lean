import Highlighting.Proofs.Cost
import Highlighting.Proofs.Literal

/-! Sizes of texts on which the built-in language never reaches a limit of backtracking. A start costs
one unit, and a quotation mark without a partner another one for each character behind it on its
line. Lines are gone through once in that way, so that the cost is linear in the text. -/
namespace Highlighting.Austral

open Text Pattern Pattern.Program

variable {g : Ground} {next : Continuation} {m : Match} {place : Cursor} {text : Text}
  {room cost : Nat}

theorem costs_afterOther
    (costs : FollowsOther m.place.before.reverse → Costs room cost next m) :
    Costs room cost (run g afterOther next) m := by
  refine costs_around fun place step => costs_one fun ch d other reads => ?_
  obtain ⟨⟨⟨before,after,offset,size⟩,slots⟩,start⟩ := m
  cases before with
  | nil => simp [Cursor.back?,Cursor.previous?] at step
  | cons last before =>
    obtain rfl := Option.some.inj step
    have same : last = ch := (List.cons.inj reads.after).1
    have follows : FollowsOther (last :: before).reverse :=
      ⟨last,by simp,by simpa [same,CharSet.contains] using other⟩
    intro s budget same enough
    refine costs follows { s with place := _ } budget ?_ enough
    rw [same]

theorem exists_typeNamePart {before rest : Text} {ch : Char} (follows : FollowsOther before)
    (capital : isCapital ch) :
    TypeNamePart before (ch :: rest.takeWhile isIdentifier) (rest.dropWhile isIdentifier) := by
  refine (typeNamePart_iff ..).mp ⟨follows,?_,by simpa using capital,fun c isHead => ?_⟩
  · have within := List.all_eq_true.mp (List.all_takeWhile (p := isIdentifier) (l := rest))
    simpa using ⟨isIdentifier_of_isCapital capital,within⟩
  · simpa [isHead] using List.head?_dropWhile_not isIdentifier rest

/-- Only where a type name begins there is something to try. -/
theorem typeName_costs (enough : place.after.length < g.places)
    (bound : ∀ ch d, FollowsOther place.before.reverse → isCapital ch → place.Reads [ch] d →
      d.after.length < cost) :
    Costs cost cost (run g typeNameProgram .found) (State.initial place).toMatch := by
  refine costs_afterOther fun follows => costs_one fun ch d capital reads => ?_
  have less : d.after.length < cost := bound ch d follows (by simpa using capital) reads
  have taken := (List.takeWhile_prefix (l := d.after) identifierSet.contains).length_le
  have size : d.after.length ≤ place.after.length := reads.onward.length_le
  refine (@costs_star_one g .found { (State.initial place).toMatch with place := d } 0 0
    identifierSet (by simp only; omega) fun _ => costs_found).mono ?_ ?_
  · simp only
    omega
  · simp only
    omega

/-- The rule for type names never gives up on a text that has fewer characters than there may be
choices open. -/
theorem typeName_lasts (short : text.length < heightLimit) : typeNamePattern.Lasts text := by
  refine lasts_of_places rfl fun place size => ?_
  refine @givesUp_eq_false typeNameProgram place TypeNamePart (fun c => c.after.length) rfl
    typeName_denotes (fun g c onward room => ?_) (Nat.le_of_lt (Nat.lt_of_le_of_lt size short))
  have fewer := onward.length_le
  by_cases start : FollowsOther c.before.reverse ∧ c.after.head?.any isCapital
  · refine ⟨c.after.length,typeName_costs room fun ch d _ _ reads => ?_,by omega,Nat.le_refl _,.inl ?_⟩
    · simp [reads.after]
    · cases follows : c.after with
      | nil => simp [follows] at start
      | cons ch rest =>
        have part := @exists_typeNamePart _ rest ch start.1 (by simpa [follows] using start.2)
        obtain ⟨d,reads,after⟩ := @Cursor.exists_reads c (ch :: rest.takeWhile isIdentifier)
          (rest.dropWhile isIdentifier) (by simp [follows])
        exact ⟨_,d,reads,after ▸ part⟩
  · refine ⟨0,typeName_costs room fun ch d behind capital reads => ?_,by decide,Nat.zero_le _,.inr ?_⟩
    · exact absurd ⟨behind,by simpa [reads.after] using capital⟩ start
    · intro ch d reads
      simp [reads.after]

def backOff : Text → Nat
  | [] => 0
  | c :: rest => if c = '"' then (rest.takeWhile (!endsLine ·)).length + 1 else 0

theorem backOff_le (text : Text) : backOff text ≤ text.length := by
  cases text with
  | nil => simp [backOff]
  | cons c rest =>
    have taken := (List.takeWhile_prefix (l := rest) (!endsLine ·)).length_le
    rw [backOff,List.length_cons]
    split
    · omega
    · omega

theorem costs_string {last : State → State} (enough : m.place.after.length < g.places) :
    Costs (backOff m.place.after) (backOff m.place.after)
      (run g (.seq quote (.seq (.many (.regular (.one withinLineSet)) 0 none true false)
        (.seq quote .nothing))) fun s budget => .found (last s) budget) m := by
  refine costs_one fun ch d mark reads => ?_
  have isMark : ch = '"' := by simpa [CharSet.contains] using mark
  have follows : m.place.after = '"' :: d.after := isMark ▸ reads.after
  have line : withinLineSet.contains = (!endsLine ·) := funext withinLineSet_contains
  have closing (place : Cursor) : Costs 0 0 (run g (.seq quote .nothing)
      fun s budget => .found (last s) budget) { m with place } :=
    costs_one fun _ _ _ _ => costs_found
  have room : d.after.length < g.places := by
    rw [follows,List.length_cons] at enough
    omega
  have star := @costs_star_one g _ { m with place := d } 0 0 withinLineSet room closing
  exact star.mono (by simp [backOff,follows,line]) (by simp [backOff,follows,line])

theorem literal_costs (enough : place.after.length < g.places) :
    Costs (backOff place.after + 1) (backOff place.after + 1) (run g literalProgram .found)
      (State.initial place).toMatch := by
  set opened : Match := { (State.initial place).toMatch with
    toReached := (State.initial place).toReached.setSlot (2 * 1) }
  set close : State → State := fun s => s.setSlot (2 * 1 + 1)
  have string := @costs_string g opened close enough
  have digit : Costs (backOff place.after + 1) 0
      (run g afterOther (run g (.regular (.one digitSet)) fun s budget => .found (close s) budget))
      opened :=
    costs_afterOther fun _ => costs_one fun _ _ _ _ => costs_found
  exact costs_group (costs_choose string digit)

/-- What the strings of all starts resume that have no partner on their line. -/
def loose : Text → Nat
  | [] => 0
  | c :: rest => loose rest + if '"' ∈ rest.takeWhile (!endsLine ·) then 0 else backOff (c :: rest)

/-- The string of each line is counted at its last quotation mark, so that no character is counted
twice. -/
theorem loose_le (text : Text) :
    loose text + (if '"' ∈ text.takeWhile (!endsLine ·) then 0
      else (text.takeWhile (!endsLine ·)).length) ≤ text.length := by
  induction text with
  | nil => simp [loose]
  | cons c rest ih =>
    rw [loose,backOff,List.length_cons]
    by_cases ends : endsLine c
    · have notMark : c ≠ '"' := by
        rintro rfl
        contradiction
      rw [List.takeWhile_cons_of_neg (by simp [ends])]
      simp only [notMark,if_false,ite_self,List.not_mem_nil,List.length_nil]
      omega
    · rw [List.takeWhile_cons_of_pos (by simp [ends])]
      by_cases again : '"' ∈ rest.takeWhile (!endsLine ·)
      · simp only [again,if_true,List.mem_cons,or_true] at ih ⊢
        omega
      · by_cases mark : c = '"'
        · simp only [again,mark,if_true,if_false,List.mem_cons,true_or] at ih ⊢
          omega
        · simp only [again,mark,Ne.symm mark,if_false,List.mem_cons,or_false,List.length_cons] at ih ⊢
          omega

theorem exists_stringPart {before rest : Text} (again : '"' ∈ rest.takeWhile (!endsLine ·)) :
    ∃ w after, '"' :: rest = w ++ after ∧ StringPart before w after := by
  have within := List.all_eq_true.mp (List.all_takeWhile (p := (!endsLine ·)) (l := rest))
  obtain ⟨tail,body,reversed,notAfter⟩ := List.eq_append_cons_of_mem (List.mem_reverse.mpr again)
  have line : rest.takeWhile (!endsLine ·) = body.reverse ++ '"' :: tail.reverse := by
    simpa using congrArg List.reverse reversed
  rw [line] at within
  have same := (List.takeWhile_append_dropWhile (p := (!endsLine ·)) (l := rest)).symm
  rw [line] at same
  refine ⟨'"' :: (body.reverse ++ ['"']),tail.reverse ++ rest.dropWhile (!endsLine ·),?_,
    body.reverse,?_,rfl,?_⟩
  · simpa using same
  · intro c member
    simpa using within c (List.mem_append_left _ member)
  · have onLine : ∀ c ∈ tail.reverse, (!endsLine c) = true := fun c member => within c (by simp [member])
    rw [List.takeWhile_append_of_pos onLine]
    have stops := List.head?_dropWhile_not (!endsLine ·) rest
    cases behind : rest.dropWhile (!endsLine ·) with
    | nil => simpa using notAfter
    | cons e more =>
      rw [behind] at stops
      have ends : endsLine e := by simpa using stops
      simpa [ends] using notAfter

/-- The rule for literals never gives up on a text of which three times the length stays below the
budget. -/
theorem literal_lasts (short : 3 * text.length < budgetLimit) : literalPattern.Lasts text := by
  refine lasts_of_places rfl fun place size => ?_
  have counted : loose place.after ≤ place.after.length :=
    Nat.le_trans (Nat.le_add_right _ _) (loose_le place.after)
  refine @givesUp_eq_false literalProgram place LiteralPart
    (fun c => 2 * c.after.length + 1 + loose c.after) rfl literal_denotes
    (fun g c onward room => ⟨_,literal_costs room,?_,?_,?_⟩) (by omega)
  · have limit : budgetLimit = 1000000 := rfl
    have limit' : heightLimit = 1000000 := rfl
    have fewer := onward.length_le
    have least := backOff_le c.after
    omega
  · have least := backOff_le c.after
    omega
  · by_cases string : ∃ rest, c.after = '"' :: rest ∧ '"' ∈ rest.takeWhile (!endsLine ·)
    · obtain ⟨rest,follows,again⟩ := string
      obtain ⟨w,after,same,part⟩ := @exists_stringPart c.before.reverse rest again
      obtain ⟨d,reads,rfl⟩ := Cursor.exists_reads (follows.trans same)
      exact .inl ⟨w,d,reads,.inl part⟩
    · right
      intro ch d reads
      have follows : c.after = ch :: d.after := reads.after
      rw [follows,loose,List.length_cons]
      split
      · next again =>
        have notMark : ch ≠ '"' := fun mark => string ⟨d.after,mark ▸ follows,again⟩
        rw [backOff,if_neg notMark]
        omega
      · omega

/-- No rule of the language gives up on a text of which three times the length stays below the
budget. -/
theorem rules_last [Libraries] (palette : Palette) (short : 3 * text.length < budgetLimit) :
    ∃ list, rules palette = .ok list ∧ ∀ rule ∈ list, rule.pattern.Lasts text := by
  have limit : budgetLimit = heightLimit := rfl
  refine ⟨_,rules_eq palette,?_⟩
  simp only [ruleList,List.forall_mem_cons]
  refine ⟨fun _ _ => rfl,fun _ _ => rfl,fun _ _ => rfl,typeName_lasts (by omega),literal_lasts short,?_⟩
  simp

end Highlighting.Austral
