import Highlighting.Proofs.Stages

/-! The language and the format of a run that gets as far as to look for one. There is at most one
language that it can choose. If it chooses none, it fails over the name that it looks for; and it
looks for a name that is sure to be known unless the arguments or the settings give another. -/
namespace Highlighting.CommandLine

open Registry

variable {s : Surroundings Id} {arguments : List Text} {asked : List Request}
  {known : List Language} {text : Text}

theorem Surroundings.Chooses.unique {l l' : Language} (chosen : s.Chooses asked known l)
    (chosen' : s.Chooses asked known l') : l = l' :=
  Except.ok.inj ((selectLanguage_of_chooses chosen).symm.trans (selectLanguage_of_chooses chosen'))

theorem chooses_of_unnamed [Libraries] (knows : s.Knows asked known)
    (unasked : asked.filterMap Request.language? = []) (unset : s.settings.language = none) :
    ∃ l, s.Chooses asked known l := by
  rcases chooses_or_unknown s asked known with chosen | ⟨name,wanted,unknown⟩
  · exact chosen
  · obtain ⟨l,member,builtIn⟩ := knows.builtIn
    cases wanted with
    | asked last =>
      rw [unasked] at last
      contradiction
    | settings _ _ =>
      rw [unset,Option.getD_none] at unknown
      exact (unknown l member builtIn).elim

section

variable [Libraries]

theorem Report.failure_unknownLanguage_injective {name name' : Text}
    (same : Report.failure (.unknownLanguage name) = .failure (.unknownLanguage name')) :
    name = name' := by
  have messages := List.append_cancel_left (List.append_cancel_right (congrArg Report.errors same))
  exact List.append_cancel_left messages

/-- The report of a run tells that a language is unknown only if it is. -/
theorem run_unknown_iff (arrives : Arrives s arguments asked known text) {name : Text} :
    run s arguments = .ok (.failure (.unknownLanguage name)) ↔
      s.Wants asked known name ∧ ∀ l ∈ known, l.key ≠ Text.lower name := by
  constructor
  · intro failed
    rcases chooses_or_unknown s asked known with ⟨l,chosen⟩ | ⟨name',wanted,unknown⟩
    · rw [run_of_chooses arrives chosen] at failed
      obtain ⟨output,_,same⟩ := map_eq_ok_iff.mp failed
      exact absurd (congrArg Report.code same) Nat.zero_ne_one
    · have reported := run_of_fails (.language arrives wanted unknown)
      rw [failed,Except.ok.injEq] at reported
      rw [Report.failure_unknownLanguage_injective reported]
      exact ⟨wanted,unknown⟩
  · rintro ⟨wanted,unknown⟩
    exact run_of_fails (.language arrives wanted unknown)

theorem fails_unknown_iff {name : Text} :
    Fails s arguments (.unknownLanguage name) ↔
      ∃ asked known text, Arrives s arguments asked known text ∧ s.Wants asked known name ∧
        ∀ l ∈ known, l.key ≠ Text.lower name := by
  constructor
  · intro fails
    cases fails with
    | arguments _ _ fault => cases fault
    | rules _ _ _ _ refused => cases refused
    | language arrives wanted unknown => exact ⟨_,_,_,arrives,wanted,unknown⟩
  · rintro ⟨asked,known,text,arrives,wanted,unknown⟩
    exact .language arrives wanted unknown

omit [Libraries] in
/-- Requests that the same arguments make come to the same. -/
theorem Accepts.options_unique {asked' : List Request} (accepts : Accepts arguments asked)
    (accepts' : Accepts arguments asked') : Options.ofRequests asked = Options.ofRequests asked' :=
  Except.ok.inj
    ((Options.parse_of_accepts accepts).symm.trans (Options.parse_of_accepts accepts'))

theorem not_fails_unknown_of_unnamed (accepts : Accepts arguments asked)
    (unasked : asked.filterMap Request.language? = []) (unset : s.settings.language = none)
    (name : Text) : ¬ Fails s arguments (.unknownLanguage name) := by
  intro fails
  obtain ⟨asked',known,text,arrives,wanted,unknown⟩ := fails_unknown_iff.mp fails
  have same := congrArg Options.language (accepts.options_unique arrives.accepts)
  simp only [Options.ofRequests,unasked,List.getLast?_nil] at same
  have unasked' := List.getLast?_eq_none_iff.mp same.symm
  obtain ⟨l,chosen⟩ := chooses_of_unnamed arrives.knows unasked' unset
  have selected := selectLanguage_of_chooses chosen
  rw [selectLanguage_of_unknown wanted unknown] at selected
  contradiction

/-- A run that looks for a language among those it knows chooses at most one of them, and that
language and its format make up the report. It reports a name as unknown exactly if it looks for that
name and no language has it, and there is a language unless it does. No other run fails over a name,
and no run does without a name in its arguments or settings. -/
theorem run_uses_chosen (s : Surroundings Id) (arguments : List Text) :
    (∀ asked known text, Arrives s arguments asked known text →
      (∀ l, s.Chooses asked known l →
        run s arguments = (l.highlight (s.format asked) text).map .success) ∧
      (∀ l l', s.Chooses asked known l → s.Chooses asked known l' → l = l') ∧
      (∀ name, run s arguments = .ok (.failure (.unknownLanguage name)) ↔
        s.Wants asked known name ∧ ∀ l ∈ known, l.key ≠ Text.lower name) ∧
      ((∃ l, s.Chooses asked known l) ∨
        ∃ name, run s arguments = .ok (.failure (.unknownLanguage name)))) ∧
    (∀ name, Fails s arguments (.unknownLanguage name) ↔
      ∃ asked known text, Arrives s arguments asked known text ∧ s.Wants asked known name ∧
        ∀ l ∈ known, l.key ≠ Text.lower name) ∧
    ∀ asked, Accepts arguments asked → asked.filterMap Request.language? = [] →
      s.settings.language = none → ∀ name, ¬ Fails s arguments (.unknownLanguage name) := by
  refine ⟨fun asked known text arrives => ⟨?_,?_,?_,?_⟩,?_,?_⟩
  · exact fun l chosen => run_of_chooses arrives chosen
  · exact fun l l' => Surroundings.Chooses.unique
  · exact fun name => run_unknown_iff arrives
  · rcases chooses_or_unknown s asked known with chosen | ⟨name,unknown⟩
    · exact .inl chosen
    · exact .inr ⟨name,(run_unknown_iff arrives).mpr unknown⟩
  · exact fun name => fails_unknown_iff
  · exact fun asked => not_fails_unknown_of_unnamed

end

def namesakeFile : Text := "name='Austral'\nrules=[['r','a','c']]".toList

theorem namesakeFile_described : ∃ l, Language.parse namesakeFile = .ok l ∧
    (l.name,l.highlight .html ['a','b']) =
      (Austral.name,.ok "<span style='color:c'>a</span>b".toList) :=
  exists_ok_of_map_toOption (by decide +kernel)

/-- A run that loads such a file and asks for no language uses that of the file. -/
theorem run_uses_namesake :
    run (.holding namesakeFile ['a','b']) [['-','r'],['k']] =
      .ok (.success "<span style='color:c'>a</span>b".toList) := by
  obtain ⟨l,described,facts⟩ := namesakeFile_described
  obtain ⟨named,highlighted⟩ := Prod.mk.inj facts
  obtain ⟨austral,only,_⟩ := History.standard
  have accepts : Accepts [['-','r'],['k']] [.rules ['k']] :=
    ⟨.cons (.rules (by decide) ['k']) .nil,Nat.zero_le 1⟩
  have arrives := arrives_holding accepts ⟨by decide,by decide⟩ (by decide) rfl rfl only described
    ['a','b']
  have chosen : (Surroundings.holding namesakeFile ['a','b']).Chooses [.rules ['k']] [austral,l] l :=
    .named (.settings rfl rfl) (named ▸ lastNamed?_name austral l)
  have uses := ((run_uses_chosen _ _).1 _ _ _ arrives).1 l chosen
  exact uses.trans (map_eq_ok_iff.mpr ⟨_,highlighted,rfl⟩)

end Highlighting.CommandLine
