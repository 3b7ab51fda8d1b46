import AttachmentFetch.Disk.Basic

/-! Where a path leads. The place of a path hangs on its text and the working
directory alone; what lies on the disk only decides whether the way exists. -/
namespace AttachmentFetch.Path

/-- A name that stands for one step down, whatever directory it is joined to. -/
structure IsName (name : String) : Prop where
  nonempty : name ≠ ""
  noSlash : '/' ∉ name.toList
  notHere : name ≠ "."
  notUp : name ≠ ".."

theorem names_append_slash (front back : String) :
    names (front ++ "/" ++ back) = names front ++ names back := by
  have split : (front ++ "/" ++ back).toList = front.toList ++ '/' :: back.toList := by
    simp
  simp only [names, split, List.splitOn_append_cons_self, List.filter_append, List.map_append]

theorem names_of_noSlash {name : String} (nonempty : name ≠ "") (noSlash : '/' ∉ name.toList) :
    names name = [name] := by
  simp [names, List.splitOn_eq_singleton noSlash, nonempty]

theorem names_empty : names "" = [] := by decide

theorem not_startsWith_slash {name : String} (noSlash : '/' ∉ name.toList) :
    name.startsWith "/" = false := by
  rw [String.startsWith_string_eq_false_iff]
  rintro ⟨rest, h⟩
  rw [← h] at noSlash
  simp at noSlash

theorem eq_append_slash {directory : String} (h : directory.endsWith "/" = true) :
    ∃ front : String, directory = front ++ "/" := by
  rw [show directory.endsWith "/" = directory.toSlice.endsWith "/" from rfl,
    String.Slice.endsWith_string_iff] at h
  obtain ⟨front, h⟩ := h
  refine ⟨String.ofList front, ?_⟩
  rw [← String.toList_inj]
  simpa using h.symm

section Ending
variable {stem ending : String}

theorem mem_stem_ending {c : Char} (h : c ∉ stem.toList) (h' : c ∉ ending.toList) :
    c ∉ (stem ++ ending).toList := by
  rw [String.toList_append, List.mem_append]
  exact not_or.2 ⟨h, h'⟩

theorem isName_of_ending (noSlash : '/' ∉ stem.toList) (noSlash' : '/' ∉ ending.toList)
    (long : 3 ≤ ending.toList.length) : IsName (stem ++ ending) := by
  have length : 3 ≤ (stem ++ ending).toList.length := by
    rw [String.toList_append, List.length_append]
    omega
  refine ⟨?_, mem_stem_ending noSlash noSlash', ?_, ?_⟩ <;> intro h <;> rw [h] at length <;>
    revert length <;> decide

end Ending

section Join
variable {name : String} (isName : IsName name) (directory : String)
include isName

theorem join_cases :
    (directory = "" ∧ join directory name = name) ∨
      (∃ front, directory = front ++ "/" ∧ join directory name = front ++ "/" ++ name) ∨
      (directory ≠ "" ∧ join directory name = directory ++ "/" ++ name) := by
  unfold join
  rw [not_startsWith_slash isName.noSlash]
  by_cases empty : directory = ""
  · simp [empty]
  · by_cases slash : directory.endsWith "/" = true
    · obtain ⟨front, rfl⟩ := eq_append_slash slash
      refine .inr (.inl ⟨front, rfl, ?_⟩)
      simp [slash]
    · refine .inr (.inr ⟨empty, ?_⟩)
      simp [empty, slash]

@[simp] theorem names_join : names (join directory name) = names directory ++ [name] := by
  have single := names_of_noSlash isName.nonempty isName.noSlash
  rcases join_cases isName directory with ⟨rfl, h⟩ | ⟨front, rfl, h⟩ | ⟨-, h⟩
  · rw [h, single, names_empty, List.nil_append]
  · have front_names : names (front ++ "/") = names front := by
      simpa [names_empty] using names_append_slash front ""
    rw [h, names_append_slash, single, front_names]
  · rw [h, names_append_slash, single]

theorem startsWith_join : (join directory name).startsWith "/" = directory.startsWith "/" := by
  rcases join_cases isName directory with ⟨rfl, h⟩ | ⟨front, rfl, h⟩ | ⟨nonempty, h⟩
  · rw [h, not_startsWith_slash isName.noSlash]
    decide
  · rw [h, Bool.eq_iff_iff, String.startsWith_string_iff, String.startsWith_string_iff]
    cases h : front.toList <;> simp [h]
  · have : directory.toList ≠ [] := by simpa using nonempty
    rw [h, Bool.eq_iff_iff, String.startsWith_string_iff, String.startsWith_string_iff]
    cases h : directory.toList <;> simp_all

theorem endsWith_join : (join directory name).endsWith "/" = false := by
  rw [show (join directory name).endsWith "/" = (join directory name).toSlice.endsWith "/" from rfl,
    String.Slice.endsWith_string_eq_false_iff]
  have last : ∃ front, (join directory name).toList = front ++ name.toList := by
    rcases join_cases isName directory with ⟨-, h⟩ | ⟨front, -, h⟩ | ⟨-, h⟩
    · exact ⟨[], by simp [h]⟩
    · exact ⟨front.toList ++ ['/'], by simp [h]⟩
    · exact ⟨directory.toList ++ ['/'], by simp [h]⟩
  obtain ⟨front, last⟩ := last
  rintro ⟨rest, h⟩
  have slash := congrArg List.getLast? (last.symm.trans (by simpa using h.symm))
  simp only [List.getLast?_append, List.getLast?_singleton, Option.some_or, Option.or_eq_some_iff,
    List.getLast?_eq_none_iff, String.toList_eq_nil_iff, isName.nonempty, false_and,
    or_false] at slash
  exact isName.noSlash (List.mem_of_getLast? slash)

end Join

end AttachmentFetch.Path

namespace AttachmentFetch.Disk

/-- Where a path leads by its names alone, whether or not the way exists. -/
def target (disk : Disk) (path : String) : Place :=
  (Path.names path).foldl enter (if path.startsWith "/" then [] else disk.workingDirectory)

theorem walk_eq_foldl {disk : Disk} {place found : Place} {names : List String}
    (h : disk.walk place names = .ok found) : found = names.foldl enter place := by
  induction names generalizing place with
  | nil =>
    cases h
    rfl
  | cons name rest ih =>
    unfold walk at h
    split at h
    · cases h
    · split at h
      · cases h
        rfl
      · cases h
      · cases h
      · exact ih h

theorem locate_eq_target {disk : Disk} {path : String} {place : Place}
    (h : disk.locate path = .ok place) : place = disk.target path := by
  unfold locate at h
  split at h <;> try contradiction
  split at h <;> try contradiction
  split at h <;> try contradiction
  split at h
  · contradiction
  next walked =>
    split at h
    · contradiction
    · cases h
      exact walk_eq_foldl walked

theorem enter_name {name : String} (isName : Path.IsName name) (place : Place) :
    enter place name = place ++ [name] := by
  rw [enter, if_neg isName.notHere, if_neg isName.notUp]

theorem target_join {name : String} (isName : Path.IsName name) (disk : Disk) (directory : String) :
    disk.target (Path.join directory name) = disk.target directory ++ [name] := by
  simp only [target, Path.names_join isName, Path.startsWith_join isName, List.foldl_append,
    List.foldl_cons, List.foldl_nil, enter_name isName]

end AttachmentFetch.Disk
