import Highlighting.Proofs.Extensions

/-! File names and the languages that they lead to. A name leads by what stands behind its last dot and
by nothing else. So a language that was just added is found by all of its extensions that have no dot
inside, in whatever case they are written, and by one with a dot only if the end of it is an extension
of the language as well. -/
namespace Highlighting

namespace Path

theorem step?_of_length {name : Text} (long : 2 < name.length) : step? name = some (.name name) := by
  unfold step?
  split
  · contradiction
  · contradiction
  · contradiction
  · rfl

/-- A path without slashes is a file name, unless it is a dot or two. -/
theorem fileName?_of_step {name : Text} (noSlash : '/' ∉ name)
    (named : step? name = some (.name name)) : fileName? name = some name := by
  have last : (components name).getLast? = some (.name name) := by
    rw [components,Text.splitOn_of_not_mem noSlash,List.filterMap_cons_some named]
    exact List.getLast?_concat
  rw [fileName?,last]

/-- The extension of a file name stands behind its last dot, wherever its other dots are. -/
theorem extension?_of_last_dot {stem tail : Text} (stemmed : stem ≠ [])
    (long : 2 < (stem ++ '.' :: tail).length) (noSlash : '/' ∉ stem ++ '.' :: tail)
    (last : '.' ∉ tail) : extension? (stem ++ '.' :: tail) = some tail := by
  have isName := fileName?_of_step noSlash (step?_of_length long)
  have pieces : (Text.splitOn '.' (stem ++ '.' :: tail)).reverse =
      tail :: (Text.splitOn '.' stem).reverse := by
    rw [Text.splitOn_append_mark,Text.splitOn_of_not_mem last,List.reverse_append]
    rfl
  rw [extension?,isName]
  simp only [Option.bind_eq_bind,Option.bind_some,pieces]
  by_cases more : '.' ∈ stem
  · obtain ⟨a,b,rfl⟩ := List.append_of_mem more
    obtain ⟨first,rest,split⟩ := List.exists_cons_of_ne_nil
      (mt List.reverse_eq_nil_iff.mp (Text.splitOn_ne_nil '.' a))
    obtain ⟨first',rest',split'⟩ := List.exists_cons_of_ne_nil
      (mt List.reverse_eq_nil_iff.mp (Text.splitOn_ne_nil '.' b))
    rw [Text.splitOn_append_mark,List.reverse_append,split,split']
    cases rest' <;> rfl
  · rw [Text.splitOn_of_not_mem more]
    simp [stemmed]

end Path

theorem Text.mem_iff_of_lower_eq {s t : Text} (same : lower s = lower t) {mark : Char}
    (visible : 0 < mark.toNat) (low : mark.toNat < 0x41) : mark ∈ s ↔ mark ∈ t := by
  rw [← mem_lower_iff visible low,same,mem_lower_iff visible low]

namespace Registry

variable {r : Registry} {history : List Language}

/-- A language that was just added is found by each of its extensions without a dot, in any case. An
extension that is written with a dot finds it exactly if what stands behind the last dot is one of its
extensions. -/
theorem detect?_just_added [Libraries] (grown : History r history) (l : Language)
    {extension written stem : Text} (listed : extension ∈ l.extensions) (nonempty : extension ≠ [])
    (noSlash : '/' ∉ extension) (spelled : Text.lower written = Text.lower extension)
    (stemmed : stem ≠ []) (oneName : '/' ∉ stem) :
    ('.' ∉ extension → (r.add l).detect? (stem ++ '.' :: written) = some l) ∧
    ∀ front tail, written = front ++ '.' :: tail → '.' ∉ tail →
      ((r.add l).detect? (stem ++ '.' :: written) = some l ↔ Text.lower tail ∈ l.claims) := by
  have kept := grown.kept
  have claim : Text.lower extension ∈ l.claims := List.mem_map_of_mem listed
  have writtenSlash : '/' ∉ written :=
    mt (Text.mem_iff_of_lower_eq spelled (by decide) (by decide)).mp noSlash
  have written_ne : written ≠ [] := by
    rwa [Ne,← Text.lower_eq_nil_iff,spelled,Text.lower_eq_nil_iff]
  have stemLength := List.length_pos_of_ne_nil stemmed
  have writtenLength := List.length_pos_of_ne_nil written_ne
  have long : 2 < (stem ++ '.' :: written).length := by simp; omega
  have noSlash' : '/' ∉ stem ++ '.' :: written := by simp [oneName,writtenSlash]
  constructor
  · intro noDot
    have writtenDot := mt (Text.mem_iff_of_lower_eq spelled (by decide) (by decide)).mp noDot
    have isExtension := Path.extension?_of_last_dot stemmed long noSlash' writtenDot
    rwa [kept.detect?_add_iff isExtension,spelled]
  · rintro front tail rfl last
    -- The dots before the last one belong to the stem.
    have regroup : stem ++ '.' :: (front ++ '.' :: tail) = (stem ++ '.' :: front) ++ '.' :: tail := by
      simp
    rw [regroup] at long noSlash' ⊢
    have isExtension := Path.extension?_of_last_dot (by simp) long noSlash' last
    exact kept.detect?_add_iff isExtension l

/-- Two extensions, the second of which ends the first. -/
def archives : Language := ⟨['T','a','r'],[['t','a','r','.','g','z'],['G','Z']],[]⟩

theorem detect?_just_added_archive : ∃ austral, History standard [austral] ∧
    ['t','a','r','.','g','z'] ∈ archives.extensions ∧
    Text.lower ['T','a','r','.','g','Z'] = Text.lower ['t','a','r','.','g','z'] ∧
    (standard.add archives).detect? ['a','.','T','a','r','.','g','Z'] = some archives := by
  obtain ⟨austral,_,grown⟩ := History.standard
  have listed : ['t','a','r','.','g','z'] ∈ archives.extensions := List.mem_cons_self
  have spelled : Text.lower ['T','a','r','.','g','Z'] = Text.lower ['t','a','r','.','g','z'] := by
    rw [Text.lower_ascii (by decide),Text.lower_ascii (by decide)]
    decide
  have claim : Text.lower ['g','Z'] ∈ archives.claims := by
    refine List.mem_map.mpr ⟨['G','Z'],by decide,?_⟩
    rw [Text.lower_ascii (by decide),Text.lower_ascii (by decide)]
    decide
  obtain ⟨_,dotted⟩ := detect?_just_added grown archives listed (by decide) (by decide) spelled
    (List.cons_ne_nil 'a' []) (by decide)
  exact ⟨austral,grown,listed,spelled,(dotted ['T','a','r'] ['g','Z'] rfl (by decide)).mpr claim⟩

/-- An extension with a dot inside is listed in vain if the end of it is not listed too. -/
theorem dotted_extension_unfound : ∃ l,
    l = Language.addExtension ⟨['T','a','r'],[],[]⟩ ['.','t','a','r','.','g','z'] ∧
    ['t','a','r','.','g','z'] ∈ l.extensions ∧ History (empty.add l) [l] ∧
    (empty.add l).get? l.name = some l ∧
    (empty.add l).detect? ['a','.','t','a','r','.','g','z'] = none := by
  have isExtension : Path.extension? ['a','.','t','a','r','.','g','z'] = some ['g','z'] := by decide
  have unclaimed : Text.lower ['g','z'] ≠ Text.lower ['t','a','r','.','g','z'] :=
    Text.lower_ne_of_length (by decide) (by decide) (by decide)
  refine ⟨_,rfl,by decide,History.empty.add _,?_,?_⟩
  · rw [get?_add]
    exact if_pos rfl
  · rw [Kept.empty.detect?_add isExtension,if_neg]
    · rfl
    · exact mt List.mem_singleton.mp unclaimed

end Registry

end Highlighting
