import Highlighting.Proofs.History

/-! Extensions that several languages claim. A registry knows one language for each extension, the
last that claimed it. A later language of the same name takes that one out with everything it held,
so an extension can come to lead nowhere while an earlier language still claims it. Nothing else
loses an extension. -/
namespace Highlighting.Registry

/-- The language claims the extension, and none of those that were added `after` it does. -/
def ClaimsLast (history : List Language) (extension : Text) (l : Language)
    (after : List Language) : Prop :=
  ∃ before, history = before ++ l :: after ∧ extension ∈ l.claims ∧
    ∀ later ∈ after, extension ∉ later.claims

theorem exists_claimsLast {history : List Language} {extension : Text}
    (claimed : ∃ l ∈ history, extension ∈ l.claims) :
    ∃ last after, ClaimsLast history extension last after := by
  induction history with
  | nil => simp at claimed
  | cons first rest ih =>
    by_cases again : ∃ l ∈ rest, extension ∈ l.claims
    · obtain ⟨last,after,before,rfl,claim,unclaimed⟩ := ih again
      exact ⟨last,after,first :: before,rfl,claim,unclaimed⟩
    · obtain ⟨l,member,claim⟩ := claimed
      rcases List.mem_cons.mp member with rfl | member
      · exact ⟨l,rest,[],rfl,claim,fun later member claim => again ⟨later,member,claim⟩⟩
      · exact absurd ⟨l,member,claim⟩ again

theorem ClaimsLast.unique {history : List Language} {extension : Text} {l l' : Language}
    {after after' : List Language} (last : ClaimsLast history extension l after)
    (last' : ClaimsLast history extension l' after') : l = l' ∧ after = after' := by
  obtain ⟨before,rfl,claim,unclaimed⟩ := last
  obtain ⟨before',same,claim',unclaimed'⟩ := last'
  rcases List.append_eq_append_iff.mp same with ⟨gap,_,parts⟩ | ⟨gap,_,parts⟩
  · rcases gap with _ | ⟨first,gap⟩
    · simpa using parts
    · obtain ⟨rfl,rfl⟩ := List.cons.inj parts
      exact absurd claim' (unclaimed l' (by simp))
  · rcases gap with _ | ⟨first,gap⟩
    · simpa [eq_comm] using parts
    · obtain ⟨rfl,rfl⟩ := List.cons.inj parts
      exact absurd claim (unclaimed' l (by simp))

/-- The holder of an extension is the last language that claimed it, if that is not replaced. -/
theorem holds_iff_claimsLast {history : List Language} {extension : Text} {l : Language} :
    Holds history extension l ↔
      ∃ after, ClaimsLast history extension l after ∧ ∀ later ∈ after, later.key ≠ l.key := by
  constructor
  · rintro ⟨before,after,parts,claim,last⟩
    exact ⟨after,⟨before,parts,claim,fun later member => (last later member).1⟩,
      fun later member => (last later member).2⟩
  · rintro ⟨after,⟨before,parts,claim,unclaimed⟩,kept⟩
    exact ⟨before,after,parts,claim,fun later member => ⟨unclaimed later member,kept later member⟩⟩

theorem get?_add (r : Registry) (l : Language) (name : Text) :
    (r.add l).get? name = if l.key = Text.lower name then some l else r.get? name := by
  rw [Registry.get?,add_eq,Table.get?_put]
  rfl

namespace Kept

variable {r : Registry} {history : List Language} {path extension : Text}

theorem mem_of_get? (kept : Kept r history) {l : Language} (registered : r.get? l.name = some l) :
    l ∈ history := by
  rw [Registry.get?,kept.named] at registered
  exact List.mem_reverse.mp (List.mem_of_find?_eq_some registered)

theorem get?_of_holds (kept : Kept r history) {l : Language} (held : Holds history extension l) :
    r.get? l.name = some l := kept.mem_languages.mpr ⟨held.mem_current,rfl⟩

theorem detect?_iff_holds (kept : Kept r history)
    (isExtension : Path.extension? path = some extension) (l : Language) :
    r.detect? path = some l ↔ Holds history (Text.lower extension) l := by
  rw [kept.detect?_eq_some_iff,isExtension]
  simp

/-- A path leads to the last language that claimed its extension, unless that one is replaced. -/
theorem detect?_of_claimsLast (kept : Kept r history)
    (isExtension : Path.extension? path = some extension) {last : Language}
    {after : List Language} (claims : ClaimsLast history (Text.lower extension) last after)
    (stays : ∀ later ∈ after, later.key ≠ last.key) : r.detect? path = some last :=
  (kept.detect?_iff_holds isExtension last).mpr (holds_iff_claimsLast.mpr ⟨after,claims,stays⟩)

/-- No earlier claim counts again once the language that claimed the extension last is replaced. -/
theorem detect?_of_replaced (kept : Kept r history)
    (isExtension : Path.extension? path = some extension) {last later : Language}
    {after : List Language} (claims : ClaimsLast history (Text.lower extension) last after)
    (member : later ∈ after) (replaces : later.key = last.key) : r.detect? path = none := by
  refine Option.eq_none_iff_forall_ne_some.mpr fun l detected => ?_
  have held := (kept.detect?_iff_holds isExtension l).mp detected
  obtain ⟨after',claims',stays⟩ := holds_iff_claimsLast.mp held
  obtain ⟨rfl,rfl⟩ := claims.unique claims'
  exact stays later member replaces

/-- What an addition does to the language of a path: a new claim takes it over, and a language that is
replaced gives it up. -/
theorem detect?_add (kept : Kept r history) (isExtension : Path.extension? path = some extension)
    (l : Language) :
    (r.add l).detect? path =
      if Text.lower extension ∈ l.claims then some l
      else (r.detect? path).filter (·.key ≠ l.key) := by
  ext holder
  rw [(kept.add l).detect?_iff_holds isExtension,holds_append_singleton]
  split
  · next claim => simp [claim,eq_comm]
  · next unclaimed =>
    simp [unclaimed,kept.detect?_iff_holds isExtension,Option.filter_eq_some_iff]

/-- A path is taken for the language just added exactly if that claims its extension. -/
theorem detect?_add_iff (kept : Kept r history)
    (isExtension : Path.extension? path = some extension) (l : Language) :
    (r.add l).detect? path = some l ↔ Text.lower extension ∈ l.claims := by
  rw [kept.detect?_add isExtension]
  split
  · next claim => exact iff_of_true rfl claim
  · next unclaimed => simp [unclaimed,Option.filter_eq_some_iff]

end Kept

/-- An extension that a registered language claims leads to the language that was the last of all to
claim it, as long as that one is registered; once it has been replaced the extension leads nowhere.
An addition hands an extension that it claims to the new language. Any other extension keeps its
language, unless that is the one replaced. -/
theorem detect?_last_claim [Libraries] {r : Registry} {history : List Language}
    (grown : History r history) {path extension : Text}
    (isExtension : Path.extension? path = some extension) {l : Language}
    (registered : r.get? l.name = some l) (claim : Text.lower extension ∈ l.claims) :
    (∃ last after, ClaimsLast history (Text.lower extension) last after ∧
      ((∀ later ∈ after, later.key ≠ last.key) →
        r.detect? path = some last ∧ r.get? last.name = some last) ∧
      ((∃ later ∈ after, later.key = last.key) → r.detect? path = none)) ∧
    ∀ added, (r.add added).detect? path =
      if Text.lower extension ∈ added.claims then some added
      else (r.detect? path).filter (·.key ≠ added.key) := by
  have kept := grown.kept
  obtain ⟨last,after,claims⟩ := exists_claimsLast ⟨l,kept.mem_of_get? registered,claim⟩
  refine ⟨⟨last,after,claims,fun stays => ⟨?_,?_⟩,?_⟩,kept.detect?_add isExtension⟩
  · exact kept.detect?_of_claimsLast isExtension claims stays
  · exact kept.get?_of_holds (holds_iff_claimsLast.mpr ⟨after,claims,stays⟩)
  · rintro ⟨later,member,replaces⟩
    exact kept.detect?_of_replaced isExtension claims member replaces

def sharing : Language := ⟨['Z','e','d'],[['a','u','m']],[]⟩

theorem sharing_key_ne : sharing.key ≠ Text.lower Austral.name :=
  Text.lower_ne_of_length (by decide) (by decide) (by decide)

theorem shares_builtIn : ∃ austral, Austral.language .standard = .ok austral ∧
    austral.name = Austral.name ∧ History (standard.add sharing) [austral,sharing] ∧
    (standard.add sharing).get? austral.name = some austral ∧
    Text.lower ['a','u','m'] ∈ austral.claims ∧
    ClaimsLast [austral,sharing] (Text.lower ['a','u','m']) sharing [] := by
  obtain ⟨austral,only,start⟩ := History.standard
  have parts := Austral.language_eq .standard
  rw [only,Except.ok.injEq] at parts
  refine ⟨austral,only,by rw [parts],start.add sharing,?_,?_,?_⟩
  · rw [get?_add,if_neg (by rw [parts]; exact sharing_key_ne),Registry.get?,start.kept.named]
    exact List.find?_cons_of_pos (beq_self_eq_true _)
  · simp [parts,Language.claims]
  · exact ⟨[austral],rfl,List.mem_singleton_self _,by simp⟩

/-- The language that took the extension over has it, and loses it only to one of its own name. -/
theorem detect?_last_claim_shared : ∃ austral r, Austral.language .standard = .ok austral ∧
    History r [austral,sharing] ∧ r.get? austral.name = some austral ∧
    Text.lower ['a','u','m'] ∈ austral.claims ∧
    Path.extension? ['M','.','a','u','m'] = some ['a','u','m'] ∧
    r.detect? ['M','.','a','u','m'] = some sharing ∧
    (r.add austral).detect? ['M','.','a','u','m'] = some austral ∧
    (r.add ⟨sharing.name,[],[]⟩).detect? ['M','.','a','u','m'] = none := by
  obtain ⟨austral,only,_,grown,registered,claim,claims⟩ := shares_builtIn
  have isExtension : Path.extension? ['M','.','a','u','m'] = some ['a','u','m'] := by decide
  obtain ⟨⟨last,after,claims',stays,_⟩,added⟩ :=
    detect?_last_claim grown isExtension registered claim
  obtain ⟨rfl,rfl⟩ := claims.unique claims'
  obtain ⟨detected,_⟩ := stays (by simp)
  refine ⟨austral,_,only,grown,registered,claim,isExtension,detected,?_,?_⟩
  · rw [added,if_pos claim]
  · rw [added,detected]
    simp [Language.claims,Language.key]

/-- The built-in language is registered and claims the extension of a path, but the path is taken for
no language: the one that took the extension over has been replaced by one without it. -/
theorem shared_extension_lost : ∃ austral r, Austral.language .standard = .ok austral ∧
    History r [austral,sharing,⟨sharing.name,[],[]⟩] ∧ r.get? austral.name = some austral ∧
    Path.extension? ['M','.','a','u','m'] = some ['a','u','m'] ∧
    Text.lower ['a','u','m'] ∈ austral.claims ∧ r.detect? ['M','.','a','u','m'] = none := by
  obtain ⟨austral,only,named,grown,registered,claim,claims⟩ := shares_builtIn
  have isExtension : Path.extension? ['M','.','a','u','m'] = some ['a','u','m'] := by decide
  refine ⟨austral,_,only,grown.add ⟨sharing.name,[],[]⟩,?_,isExtension,claim,?_⟩
  · rw [get?_add,if_neg (by rw [named]; exact sharing_key_ne),registered]
  · rw [grown.kept.detect?_add isExtension,
      grown.kept.detect?_of_claimsLast isExtension claims (by simp)]
    simp [Language.claims,Language.key]

end Highlighting.Registry
