import Mathlib.Data.List.Nodup
import Highlighting.Proofs.Extensions

/-! Additions in another order. Two languages with different names and no extension in common leave the
same registry behind in either order, whatever they replace and whatever they take over. So any number
of such languages can be added in any order. -/
namespace Highlighting

/-- Entries that are found in the same way are the same, in some order. -/
theorem Table.Keyed.perm_of_get? {α : Type} {s t : Table α} (first : Keyed s) (second : Keyed t)
    (same : ∀ key, get? s key = get? t key) : s.Perm t := by
  refine (List.perm_ext_iff_of_nodup (List.Nodup.of_map _ first) (List.Nodup.of_map _ second)).mpr ?_
  rintro ⟨key,value⟩
  rw [← first.get?_eq_some_iff,same key,second.get?_eq_some_iff]

namespace Registry

structure Same (r s : Registry) : Prop where
  languages : ∀ key, Table.get? r.languages key = Table.get? s.languages key
  extensions : ∀ extension, Table.get? r.extensions extension = Table.get? s.extensions extension

/-- Neither language replaces the other one or takes an extension from it. -/
structure Independent (a b : Language) : Prop where
  otherName : a.key ≠ b.key
  apart : ∀ extension ∈ a.claims, extension ∉ b.claims

theorem Independent.symm {a b : Language} (independent : Independent a b) : Independent b a :=
  ⟨independent.otherName.symm,fun extension claim claim' => independent.apart extension claim' claim⟩

namespace Same

variable {r s t : Registry}

theorem refl (r : Registry) : Same r r := ⟨fun _ => rfl,fun _ => rfl⟩

theorem trans (first : Same r s) (second : Same s t) : Same r t :=
  ⟨fun key => (first.languages key).trans (second.languages key),
    fun extension => (first.extensions extension).trans (second.extensions extension)⟩

theorem get? (same : Same r s) (name : Text) : r.get? name = s.get? name := same.languages _

theorem detect? (same : Same r s) (path : Text) : r.detect? path = s.detect? path := by
  simp only [Registry.detect?,same.extensions,same.languages]

end Same

namespace Kept

variable {r s : Registry} {history others : List Language}

/-- What an addition does to the owner of an extension: the new language takes what it claims, and
gives back all else that one of its name had. -/
theorem owner_add (kept : Kept r history) (l : Language) (extension : Text) :
    Table.get? (r.add l).extensions extension =
      if extension ∈ l.claims then some l.key
      else (Table.get? r.extensions extension).filter (· ≠ l.key) := by
  obtain ⟨keyed,members⟩ := foldl_put l.key l.extensions (kept.keyed_remaining l.key)
  ext key
  rw [add_eq,keyed.get?_eq_some_iff,members,kept.mem_remaining,← kept.keyed.get?_eq_some_iff]
  change extension ∈ l.claims ∧ _ ∨ _ ∧ extension ∉ l.claims ↔ _
  split
  · next claim => simp [claim,eq_comm]
  · next unclaimed => simp [unclaimed,Option.filter_eq_some_iff]

theorem named_put (r : Registry) (l : Language) (key : Text) :
    Table.get? (r.add l).languages key = if l.key = key then some l else Table.get? r.languages key :=
  Table.get?_put r.languages l.key key l

/-- Additions see of a registry only what is the same. -/
theorem same_add (kept : Kept r history) (kept' : Kept s others) (same : Same r s) (l : Language) :
    Same (r.add l) (s.add l) where
  languages key := by rw [named_put,named_put,same.languages]
  extensions extension := by rw [kept.owner_add,kept'.owner_add,same.extensions]

theorem same_foldl_add (kept : Kept r history) (kept' : Kept s others) (same : Same r s)
    (languages : List Language) :
    Same (languages.foldl Registry.add r) (languages.foldl Registry.add s) := by
  induction languages generalizing r s history others with
  | nil => exact same
  | cons l rest ih => exact ih (kept.add l) (kept'.add l) (kept.same_add kept' same l)

theorem names_eq (kept : Kept r history) (kept' : Kept s others) (same : Same r s) :
    r.names = s.names :=
  names_eq_of_perm (kept.keyed_languages.perm_of_get? kept'.keyed_languages same.languages)

theorem add_swap (kept : Kept r history) {a b : Language} (independent : Independent a b) :
    Same ((r.add a).add b) ((r.add b).add a) where
  languages key := by
    simp only [named_put]
    by_cases first : a.key = key
    · rw [if_pos first,if_pos first,if_neg (first ▸ independent.otherName.symm)]
    · rw [if_neg first,if_neg first]
  extensions extension := by
    rw [(kept.add a).owner_add,kept.owner_add,(kept.add b).owner_add,kept.owner_add]
    by_cases first : extension ∈ a.claims
    · -- The claim of the first language survives the second one, which has another name.
      have second := independent.apart extension first
      simp [first,second,Option.filter_some,independent.otherName]
    by_cases second : extension ∈ b.claims
    · simp [first,second,Option.filter_some,independent.otherName.symm]
    · simp only [first,second,if_false,Option.filter_filter]
      exact congrArg (Option.filter · _) (funext fun owner => Bool.and_comm _ _)

/-- Languages that are independent of each other can be added in any order. -/
theorem same_of_perm (kept : Kept r history) {languages reordered : List Language}
    (order : languages.Perm reordered) (independent : languages.Pairwise Independent) :
    Same (languages.foldl Registry.add r) (reordered.foldl Registry.add r) := by
  induction order generalizing r history with
  | nil => exact .refl r
  | cons l _ ih => exact ih (kept.add l) independent.of_cons
  | swap a b rest =>
    have swapped := kept.add_swap (List.rel_of_pairwise_cons independent List.mem_cons_self)
    exact ((kept.add b).add a).same_foldl_add ((kept.add a).add b) swapped rest
  | trans first _ ih ih' =>
    exact (ih kept independent).trans (ih' kept (first.pairwise independent Independent.symm))

end Kept

variable {r : Registry} {history : List Language}

/-- Two languages with different names and no extension in common lead to the same tables in either
order, so no name, no path and no later addition can tell which of them came first. -/
theorem independent_additions_commute [Libraries] (grown : History r history) {a b : Language}
    (independent : Independent a b) :
    Same ((r.add a).add b) ((r.add b).add a) ∧
    (∀ name, ((r.add a).add b).get? name = ((r.add b).add a).get? name) ∧
    (∀ path, ((r.add a).add b).detect? path = ((r.add b).add a).detect? path) ∧
    ((r.add a).add b).names = ((r.add b).add a).names ∧
    ∀ later : List Language,
      Same (later.foldl add ((r.add a).add b)) (later.foldl add ((r.add b).add a)) := by
  have kept := (grown.kept.add a).add b
  have kept' := (grown.kept.add b).add a
  have same := grown.kept.add_swap independent
  exact ⟨same,same.get?,same.detect?,kept.names_eq kept' same,kept.same_foldl_add kept' same⟩

/-- A language of the name of the built-in one. -/
def renewed : Language := ⟨['a','u','s','t','r','a','l'],[['a','u']],[]⟩

theorem renewed_key : renewed.key = Text.lower Austral.name := by
  rw [Language.key,Text.lower_ascii (by decide),Text.lower_ascii (by decide)]
  decide

/-- One language replaces the built-in one, and the other takes an extension over from it. -/
theorem independent_additions_commute_takeover : ∃ austral, Austral.language .standard = .ok austral ∧
    History standard [austral] ∧ renewed.key = austral.key ∧ Text.lower ['a','u','m'] ∈ austral.claims ∧
    Independent renewed sharing ∧
    ((standard.add renewed).add sharing).detect? ['M','.','a','u','m'] = some sharing ∧
    ((standard.add sharing).add renewed).detect? ['M','.','a','u','m'] = some sharing := by
  obtain ⟨austral,only,grown⟩ := History.standard
  have parts := Austral.language_eq .standard
  rw [only,Except.ok.injEq] at parts
  have apart : Text.lower ['a','u'] ≠ Text.lower ['a','u','m'] :=
    Text.lower_ne_of_length (by decide) (by decide) (by decide)
  have otherName : renewed.key ≠ sharing.key := by
    rw [renewed_key]
    exact sharing_key_ne.symm
  have independent : Independent renewed sharing :=
    ⟨otherName,by simp [Language.claims,renewed,sharing,apart]⟩
  have isExtension : Path.extension? ['M','.','a','u','m'] = some ['a','u','m'] := by decide
  have detected := ((grown.kept.add renewed).detect?_add_iff isExtension sharing).mpr
    List.mem_cons_self
  obtain ⟨_,_,paths,_⟩ := independent_additions_commute grown independent
  refine ⟨austral,only,grown,?_,?_,independent,detected,(paths _).symm.trans detected⟩
  · have named : austral.name = Austral.name := by rw [parts]
    rw [renewed_key,Language.key,named]
  · simp [parts,Language.claims]

end Registry

end Highlighting
