import Highlighting.Proofs.AustralRules
import Highlighting.Proofs.ByteOrder
import Highlighting.Registry

/-! What a registry is after any number of additions. Under a name it has the language that was added
last. An extension leads to the language that claimed it last, and to none if that one has been
replaced since, even where an earlier language still claims it. -/
namespace Highlighting

def Language.key (l : Language) : Text := Text.lower l.name

def Language.claims (l : Language) : List Text := l.extensions.map Text.lower

namespace Registry

/-- The registries that grow out of the empty one and of those with the built-in languages, with all
languages that were added, the last of them at the end. -/
inductive History [Libraries] : Registry → List Language → Prop where
  | empty : History empty []
  | builtIn {palette : Palette} {r : Registry} {l : Language} (built : withPalette palette = .ok r)
      (only : Austral.language palette = .ok l) : History r [l]
  | add {r : Registry} {history : List Language} (grown : History r history) (l : Language) :
      History (r.add l) (history ++ [l])

/-- The languages of a history that no later one of the same name replaces. -/
def current : List Language → List Language
  | [] => []
  | l :: later => if l.key ∈ later.map Language.key then current later else l :: current later

/-- The language is the last that claims an extension, and no later one replaces it. -/
def Holds (history : List Language) (extension : Text) (l : Language) : Prop :=
  ∃ before after, history = before ++ l :: after ∧ extension ∈ l.claims ∧
    ∀ later ∈ after, extension ∉ later.claims ∧ later.key ≠ l.key

theorem current_append_singleton (history : List Language) (l : Language) :
    current (history ++ [l]) = (current history).filter (·.key ≠ l.key) ++ [l] := by
  induction history with
  | nil => simp [current]
  | cons first later ih =>
    by_cases replaced : first.key ∈ later.map Language.key
    · have still : first.key ∈ (later ++ [l]).map Language.key := by simp_all
      simp only [List.cons_append,current,if_pos replaced,if_pos still,ih]
    · by_cases same : first.key = l.key
      · have now : first.key ∈ (later ++ [l]).map Language.key := by simp [same]
        simp only [List.cons_append,current,if_neg replaced,if_pos now,ih]
        simp [same]
      · have never : first.key ∉ (later ++ [l]).map Language.key := by simp_all
        simp only [List.cons_append,current,if_neg replaced,if_neg never,ih]
        simp [same]

theorem key_mem_current (history : List Language) (key : Text) :
    key ∈ (current history).map Language.key ↔ key ∈ history.map Language.key := by
  induction history with
  | nil => rfl
  | cons first later ih =>
    simp only [current]
    split
    · next replaced =>
      rw [ih,List.map_cons,List.mem_cons,iff_or_self]
      rintro rfl
      exact replaced
    · rw [List.map_cons,List.map_cons,List.mem_cons,List.mem_cons,ih]

theorem nodup_key_current (history : List Language) :
    ((current history).map Language.key).Nodup := by
  induction history with
  | nil => exact List.nodup_nil
  | cons first later ih =>
    simp only [current]
    split
    · exact ih
    · next fresh => exact List.nodup_cons.mpr ⟨mt (key_mem_current later first.key).mp fresh,ih⟩

theorem holds_append_singleton {history : List Language} {added l : Language} {extension : Text} :
    Holds (history ++ [added]) extension l ↔
      extension ∈ added.claims ∧ l = added ∨
        Holds history extension l ∧ extension ∉ added.claims ∧ l.key ≠ added.key := by
  constructor
  · rintro ⟨before,after,parts,claim,last⟩
    rcases List.eq_nil_or_concat after with rfl | ⟨others,latest,rfl⟩
    · obtain ⟨rfl,same⟩ := List.append_inj' parts rfl
      cases same
      exact .inl ⟨claim,rfl⟩
    · rw [List.concat_eq_append,← List.cons_append,← List.append_assoc] at parts
      obtain ⟨rfl,same⟩ := List.append_inj' parts rfl
      cases same
      obtain ⟨unclaimed,other⟩ := last added (by simp)
      exact .inr ⟨⟨before,others,rfl,claim,fun later member => last later (by simp [member])⟩,
        unclaimed,other.symm⟩
  · rintro (⟨claim,rfl⟩ | ⟨⟨before,after,rfl,claim,last⟩,unclaimed,other⟩)
    · exact ⟨history,[],rfl,claim,by simp⟩
    · refine ⟨before,after ++ [added],by simp,claim,?_⟩
      intro later member
      rcases List.mem_append.mp member with member | member
      · exact last later member
      · rw [List.mem_singleton.mp member]
        exact ⟨unclaimed,other.symm⟩

theorem mem_current_of_last {before after : List Language} {l : Language}
    (last : ∀ later ∈ after, later.key ≠ l.key) : l ∈ current (before ++ l :: after) := by
  induction before with
  | nil =>
    have fresh : l.key ∉ after.map Language.key := by
      intro replaced
      obtain ⟨later,member,same⟩ := List.mem_map.mp replaced
      exact last later member same
    rw [List.nil_append,current,if_neg fresh]
    exact List.mem_cons_self
  | cons first before ih =>
    rw [List.cons_append,current]
    split
    · exact ih
    · exact List.mem_cons_of_mem _ ih

theorem Holds.mem_current {history : List Language} {extension : Text} {l : Language}
    (holds : Holds history extension l) : l ∈ current history := by
  obtain ⟨before,after,rfl,_,last⟩ := holds
  exact mem_current_of_last fun later member => (last later member).2

/-- What the tables of a registry hold after a history. -/
structure Kept (r : Registry) (history : List Language) : Prop where
  named : ∀ key, Table.get? r.languages key = history.reverse.find? (·.key == key)
  languages : r.languages.Perm ((current history).map fun l => (l.key,l))
  keyed : Table.Keyed r.extensions
  held : ∀ extension key,
    (extension,key) ∈ r.extensions ↔ ∃ l, Holds history extension l ∧ l.key = key

/-- All extensions of a language come to lead to it, and no other ones do. -/
theorem foldl_put (owner : Text) (extensions : List Text) {t : Table Text} (keyed : Table.Keyed t) :
    Table.Keyed (extensions.foldl (fun t e => Table.put t (Text.lower e) owner) t) ∧
    ∀ extension key,
      (extension,key) ∈ extensions.foldl (fun t e => Table.put t (Text.lower e) owner) t ↔
        extension ∈ extensions.map Text.lower ∧ key = owner ∨
          (extension,key) ∈ t ∧ extension ∉ extensions.map Text.lower := by
  induction extensions generalizing t with
  | nil => simp [keyed]
  | cons first rest ih =>
    obtain ⟨still,members⟩ := ih (keyed.put (Text.lower first) owner)
    refine ⟨still,fun extension key => ?_⟩
    simp only [List.foldl_cons,members,keyed.mem_put,Prod.mk.injEq,List.map_cons,List.mem_cons]
    grind

def remaining (r : Registry) (key : Text) : Table Text :=
  if Table.has r.languages key then r.extensions.filter (·.2 != key) else r.extensions

theorem add_eq (r : Registry) (l : Language) :
    r.add l = ⟨Table.put r.languages l.key l,
      l.extensions.foldl (fun t e => Table.put t (Text.lower e) l.key) (r.remaining l.key)⟩ := rfl

namespace Kept

variable {r : Registry} {history : List Language}

theorem empty : Kept Registry.empty [] where
  named _ := rfl
  languages := .refl _
  keyed := List.nodup_nil
  held extension key := by simp [Registry.empty,Holds]

theorem keyed_languages (kept : Kept r history) : Table.Keyed r.languages := by
  refine Table.Keyed.perm ?_ kept.languages
  simpa [Table.Keyed,Function.comp_def] using nodup_key_current history

theorem mem_languages (kept : Kept r history) {key : Text} {l : Language} :
    Table.get? r.languages key = some l ↔ l ∈ current history ∧ l.key = key := by
  rw [kept.keyed_languages.get?_eq_some_iff,kept.languages.mem_iff]
  simp only [List.mem_map,Prod.mk.injEq]
  constructor
  · rintro ⟨_,member,rfl,rfl⟩
    exact ⟨member,rfl⟩
  · rintro ⟨member,rfl⟩
    exact ⟨l,member,rfl,rfl⟩

/-- Nothing leads to a name that was never added, so the table is the same whether the extensions of
such a name are looked for or not. -/
theorem mem_remaining (kept : Kept r history) {owner extension key : Text} :
    (extension,key) ∈ r.remaining owner ↔ (extension,key) ∈ r.extensions ∧ key ≠ owner := by
  rw [remaining]
  split
  · simp
  · next unknown =>
    rw [iff_self_and]
    rintro member rfl
    obtain ⟨l,⟨before,after,rfl,_⟩,same⟩ := (kept.held extension key).mp member
    simp [Table.has,kept.named,same] at unknown

theorem keyed_remaining (kept : Kept r history) (owner : Text) :
    Table.Keyed (r.remaining owner) := by
  rw [remaining]
  split
  · exact kept.keyed.filter _
  · exact kept.keyed

theorem named_add (kept : Kept r history) (l : Language) (key : Text) :
    Table.get? (r.add l).languages key = (history ++ [l]).reverse.find? (·.key == key) := by
  rw [add_eq,Table.get?_put,kept.named,List.reverse_append,List.reverse_singleton,
    List.singleton_append]
  by_cases same : l.key = key
  · rw [if_pos same,List.find?_cons_of_pos (by simpa using same)]
  · rw [if_neg same,List.find?_cons_of_neg (by simpa using same)]

theorem languages_add (kept : Kept r history) (l : Language) :
    (r.add l).languages.Perm ((current (history ++ [l])).map fun l => (l.key,l)) := by
  have replaced := kept.languages.filter (·.1 ≠ l.key)
  rw [List.filter_map] at replaced
  rw [current_append_singleton,List.map_append]
  exact (kept.keyed_languages.put_perm l.key l).trans (replaced.append_right _)

theorem held_add (kept : Kept r history) (l : Language) (extension key : Text) :
    (extension,key) ∈ (r.add l).extensions ↔
      ∃ holder, Holds (history ++ [l]) extension holder ∧ holder.key = key := by
  obtain ⟨_,members⟩ := foldl_put l.key l.extensions (kept.keyed_remaining l.key)
  rw [add_eq,members,kept.mem_remaining,kept.held]
  simp only [holds_append_singleton]
  constructor
  · rintro (⟨claim,rfl⟩ | ⟨⟨⟨holder,held,rfl⟩,other⟩,unclaimed⟩)
    · exact ⟨l,.inl ⟨claim,rfl⟩,rfl⟩
    · exact ⟨holder,.inr ⟨held,unclaimed,other⟩,rfl⟩
  · rintro ⟨holder,⟨claim,rfl⟩ | ⟨held,unclaimed,other⟩,rfl⟩
    · exact .inl ⟨claim,rfl⟩
    · exact .inr ⟨⟨⟨holder,held,rfl⟩,other⟩,unclaimed⟩

theorem add (kept : Kept r history) (l : Language) : Kept (r.add l) (history ++ [l]) where
  named := kept.named_add l
  languages := kept.languages_add l
  keyed := (foldl_put l.key l.extensions (kept.keyed_remaining l.key)).1
  held := kept.held_add l

end Kept

section

variable [Libraries]

theorem History.kept {r : Registry} {history : List Language} (grown : History r history) :
    Kept r history := by
  induction grown with
  | empty => exact .empty
  | builtIn built only =>
    rw [withPalette,only] at built
    cases built
    exact Kept.empty.add _
  | add _ l ih => exact ih.add l

/-- No built-in rule is refused, so the standard registry has the built-in languages. -/
theorem History.standard : ∃ austral, Austral.language .standard = .ok austral ∧
    History standard [austral] := by
  obtain ⟨austral,only⟩ : ∃ austral, Austral.language .standard = .ok austral :=
    ⟨_,congrArg (Except.map _) (Austral.rules_eq .standard)⟩
  have built : withPalette .standard = .ok (Registry.empty.add austral) :=
    congrArg (Except.map _) only
  have same := standard_eq_add only
  exact ⟨austral,only,.builtIn (built.trans (congrArg _ same.symm)) only⟩

/-- A rule file that can be read adds its language to the history. -/
theorem History.addSource {r grown : Registry} {history : List Language} {path source name : Text}
    (before : History r history) (added : r.addSource path source = .ok (name,grown)) :
    ∃ l, Language.parse source = .ok l ∧ l.name = name ∧ History grown (history ++ [l]) := by
  rw [Registry.addSource] at added
  cases parsed : Language.parse source with
  | error problem => rw [parsed] at added; cases added
  | ok l =>
    rw [parsed] at added
    cases added
    exact ⟨l,rfl,rfl,before.add l⟩

end

theorem names_pairwise (r : Registry) :
    r.names.Pairwise fun s t => Text.precedes s t :=
  List.pairwise_mergeSort Text.precedes_trans Text.precedes_total _

theorem names_perm (r : Registry) : r.names.Perm (r.languages.map (·.2.name)) :=
  List.mergeSort_perm _ _

theorem names_eq_of_perm {r s : Registry} (same : r.languages.Perm s.languages) :
    r.names = s.names := by
  have perm := (r.names_perm.trans (same.map _)).trans s.names_perm.symm
  exact perm.eq_of_pairwise (fun _ _ _ _ => Text.precedes_antisymm) r.names_pairwise
    s.names_pairwise

theorem detect?_eq_some_iff {r : Registry} {path : Text} {l : Language} :
    r.detect? path = some l ↔ ∃ extension key, Path.extension? path = some extension ∧
      Table.get? r.extensions (Text.lower extension) = some key ∧
      Table.get? r.languages key = some l := by
  simp [detect?,Option.bind_eq_some_iff]

/-- The extension of a path leads to the language that holds it. -/
theorem Kept.detect?_eq_some_iff {r : Registry} {history : List Language} (kept : Kept r history)
    {path : Text} {l : Language} :
    r.detect? path = some l ↔
      ∃ extension, Path.extension? path = some extension ∧
        Holds history (Text.lower extension) l := by
  rw [Registry.detect?_eq_some_iff]
  constructor
  · rintro ⟨extension,key,isExtension,leads,found⟩
    obtain ⟨holder,held,rfl⟩ := (kept.held _ _).mp (kept.keyed.get?_eq_some_iff.mp leads)
    have registered := kept.mem_languages.mpr ⟨held.mem_current,rfl⟩
    rw [registered,Option.some_inj] at found
    exact ⟨extension,isExtension,found ▸ held⟩
  · rintro ⟨extension,isExtension,held⟩
    have leads := (kept.held _ _).mpr ⟨l,held,rfl⟩
    exact ⟨extension,l.key,isExtension,kept.keyed.get?_eq_some_iff.mpr leads,
      kept.mem_languages.mpr ⟨held.mem_current,rfl⟩⟩

/-- After any history a name finds the language that was added last under it, and the names are those
of the languages that no later one replaces, one for each key, in the order of their bytes, whatever
the order of the table. A path is taken for a language exactly if that language was the last to
claim its extension and has not been replaced, so its own name finds it. -/
theorem registry_of_history [Libraries] {r : Registry} {history : List Language}
    (grown : History r history) :
    (∀ name, r.get? name = history.reverse.find? (·.key == Text.lower name)) ∧
    (∀ l, l ∈ current history ↔ r.get? l.name = some l) ∧
    ((current history).map Language.key).Nodup ∧
    (∀ l ∈ history, l.key ∈ (current history).map Language.key) ∧
    r.names.Perm ((current history).map Language.name) ∧
    r.names.Pairwise (fun s t => s.utf8 ≤ t.utf8) ∧
    (∀ table, table.Perm r.languages → Registry.names ⟨table,r.extensions⟩ = r.names) ∧
    ∀ path l, (r.detect? path = some l ↔ ∃ extension,
      Path.extension? path = some extension ∧ Holds history (Text.lower extension) l) ∧
      (r.detect? path = some l → r.get? l.name = some l) := by
  have kept := grown.kept
  have registered (l : Language) : l ∈ current history ↔ r.get? l.name = some l := by
    rw [Registry.get?]
    refine Iff.trans ?_ kept.mem_languages.symm
    simp [Language.key]
  refine ⟨fun name => kept.named _,registered,nodup_key_current history,?_,?_,?_,?_,?_⟩
  · intro l member
    exact (key_mem_current history l.key).mpr (List.mem_map_of_mem member)
  · have listed := r.names_perm.trans (kept.languages.map _)
    rwa [List.map_map] at listed
  · exact r.names_pairwise.imp (Text.precedes_iff _ _).mp
  · intro table same
    exact names_eq_of_perm same
  · intro path l
    refine ⟨kept.detect?_eq_some_iff,fun detected => (registered l).mp ?_⟩
    obtain ⟨_,_,held⟩ := kept.detect?_eq_some_iff.mp detected
    exact held.mem_current

/-- A language that takes an extension over keeps it when the one that had it before is replaced. -/
theorem registry_of_history_takeover :
    ∃ austral zed again r, Austral.language .standard = .ok austral ∧
      zed = ⟨['Z','e','d'],[['a','u','m']],[]⟩ ∧ again = ⟨Austral.name,[['a','u']],[]⟩ ∧
      r = (standard.add zed).add again ∧ History r [austral,zed,again] ∧
      r.get? Austral.name = some again ∧ r.detect? ['M','.','a','u','m'] = some zed := by
  obtain ⟨austral,only,start⟩ := History.standard
  have grown := (start.add ⟨['Z','e','d'],[['a','u','m']],[]⟩).add ⟨Austral.name,[['a','u']],[]⟩
  have otherName : Text.lower Austral.name ≠ Text.lower ['Z','e','d'] :=
    Text.lower_ne_of_length (by decide) (by decide) (by decide)
  have otherExtension : Text.lower ['a','u','m'] ≠ Text.lower ['a','u'] :=
    Text.lower_ne_of_length (by decide) (by decide) (by decide)
  obtain ⟨named,_,_,_,_,_,_,detected⟩ := registry_of_history grown
  refine ⟨austral,_,_,_,only,rfl,rfl,rfl,grown,?_,?_⟩
  · rw [named]
    exact List.find?_cons_of_pos (beq_self_eq_true _)
  · refine (detected _ _).1.mpr ⟨['a','u','m'],by decide,[austral],
      [⟨Austral.name,[['a','u']],[]⟩],rfl,List.mem_singleton_self _,?_⟩
    intro later member
    rw [List.mem_singleton.mp member]
    exact ⟨mt List.mem_singleton.mp otherExtension,otherName⟩

end Registry

end Highlighting
