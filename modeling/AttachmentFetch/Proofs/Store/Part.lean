import AttachmentFetch.Proofs.Disk.Directory
import AttachmentFetch.Proofs.Text.Decimal
import AttachmentFetch.Store.Repository

/-! Where parts lie. Ids are written in digits, so each attachment of each message
has its own place, which is neither an unfinished file's nor a scratch file's. -/
namespace AttachmentFetch

theorem mem_repr {n : Int} {c : Char} (h : c ∈ n.repr.toList) : c.isDigit = true ∨ c = '-' := by
  rw [Int.repr_eq_if] at h
  split at h
  · rw [Nat.toList_repr] at h
    exact .inl (Nat.isDigit_of_mem_toDigits (by decide) (by decide) h)
  · rw [String.toList_append, Nat.toList_repr] at h
    rcases List.mem_append.1 h with h | h
    · exact .inr (by simpa using h)
    · exact .inl (Nat.isDigit_of_mem_toDigits (by decide) (by decide) h)

theorem repr_nonempty (n : Int) : n.repr ≠ "" := by
  rw [Int.repr_eq_if]
  split
  · exact Nat.repr_ne_empty
  · simp

section Names
variable {stem ending : String}

theorem stem_ending_ne {stem' ending' : String} (nonempty : ending.toList ≠ [])
    (nonempty' : ending'.toList ≠ [])
    (h : ending.toList.getLast nonempty ≠ ending'.toList.getLast nonempty') :
    stem ++ ending ≠ stem' ++ ending' := by
  intro same
  have last := congrArg (·.toList.getLast?) same
  simp only [String.toList_append, List.getLast?_append, List.getLast?_eq_some_getLast nonempty,
    List.getLast?_eq_some_getLast nonempty', Option.some_or, Option.some.injEq] at last
  exact h last

theorem repr_int64_inj {n m : Int64} (h : n.toInt.repr = m.toInt.repr) : n = m := by
  have same := Text.readInt64_repr n
  rw [h, Text.readInt64_repr] at same
  exact (Except.ok.inj same).symm

theorem slash_not_mem_repr (n : Int) : '/' ∉ n.repr.toList := by
  intro h
  rcases mem_repr h with h | h <;> revert h <;> decide

theorem isName_repr (n : Int) : Path.IsName n.repr := by
  have noDot : '.' ∉ n.repr.toList := by
    intro h
    rcases mem_repr h with h | h <;> revert h <;> decide
  refine ⟨repr_nonempty n, slash_not_mem_repr n, ?_, ?_⟩ <;> intro h <;> rw [h] at noDot <;>
    revert noDot <;> decide

end Names

namespace Repository
variable (repository : Repository) (message : MessageId) (attachment : AttachmentId)

theorem isName_message : Path.IsName (toString message) := isName_repr message.value.toInt

theorem isName_part : Path.IsName s!"{attachment}.bin" :=
  Path.isName_of_ending (slash_not_mem_repr attachment.value.toInt) (by decide) (by decide)

theorem isName_unfinished : Path.IsName s!"{attachment}.partial" :=
  Path.isName_of_ending (slash_not_mem_repr attachment.value.toInt) (by decide) (by decide)

theorem endsWith_partFile : (repository.partFile message attachment).endsWith "/" = false :=
  Path.endsWith_join (isName_part attachment) _

theorem target_partFile (disk : Disk) : disk.target (repository.partFile message attachment) =
    disk.target repository.partsDirectory ++ [toString message, s!"{attachment}.bin"] := by
  rw [partFile, Disk.target_join (isName_part attachment), messageDirectory,
    Disk.target_join (isName_message message), List.append_assoc]
  rfl

theorem target_unfinishedFile (disk : Disk) :
    disk.target (repository.unfinishedFile message attachment) =
      disk.target repository.partsDirectory ++ [toString message, s!"{attachment}.partial"] := by
  rw [unfinishedFile, Disk.target_join (isName_unfinished attachment), messageDirectory,
    Disk.target_join (isName_message message), List.append_assoc]
  rfl

variable {repository message attachment}

theorem ids_of_names {message' : MessageId} {attachment' : AttachmentId}
    (messages : toString message = toString message')
    (attachments : toString attachment = toString attachment') :
    message = message' ∧ attachment = attachment' := by
  cases message
  cases attachment
  cases repr_int64_inj messages
  cases repr_int64_inj attachments
  exact ⟨rfl, rfl⟩

theorem target_partFile_inj {disk : Disk} {message' : MessageId} {attachment' : AttachmentId}
    (h : disk.target (repository.partFile message attachment) =
      disk.target (repository.partFile message' attachment')) :
    message = message' ∧ attachment = attachment' := by
  rw [target_partFile, target_partFile, List.append_cancel_left_eq] at h
  injection h with messages h
  injection h with attachments
  exact ids_of_names messages ((String.append_left_inj ".bin").1 attachments)

theorem target_unfinishedFile_inj {disk : Disk} {message' : MessageId}
    {attachment' : AttachmentId}
    (h : disk.target (repository.unfinishedFile message attachment) =
      disk.target (repository.unfinishedFile message' attachment')) :
    message = message' ∧ attachment = attachment' := by
  rw [target_unfinishedFile, target_unfinishedFile, List.append_cancel_left_eq] at h
  injection h with messages h
  injection h with attachments
  exact ids_of_names messages ((String.append_left_inj ".partial").1 attachments)

variable (repository message attachment)

theorem target_partFile_ne_unfinishedFile (disk : Disk) (message' : MessageId)
    (attachment' : AttachmentId) :
    disk.target (repository.partFile message attachment) ≠
      disk.target (repository.unfinishedFile message' attachment') := by
  rw [target_partFile, target_unfinishedFile]
  intro h
  have names := (List.append_cancel_left_eq ..).mp h
  injection names with _ names
  injection names with names
  exact stem_ending_ne (by decide) (by decide) (by decide) names

theorem place_ne_scratch {disk : Disk} {directory : String} {number : Nat} {place : Place}
    {above last : String} (apart : last ≠ ScratchFile.name number) :
    place ++ [above, last] ≠ disk.target (Path.join directory (ScratchFile.name number)) := by
  rw [Disk.target_join (ScratchFile.isName number)]
  intro same
  have ends := congrArg List.getLast? same
  simp only [List.getLast?_append, List.getLast?_cons_cons, List.getLast?_singleton,
    Option.some_or, Option.some.injEq] at ends
  exact apart ends

theorem target_partFile_ne_scratch (disk : Disk) (directory : String) (number : Nat) :
    disk.target (repository.partFile message attachment) ≠
      disk.target (Path.join directory (ScratchFile.name number)) := by
  rw [target_partFile]
  exact place_ne_scratch (stem_ending_ne (by decide) (by decide) (by decide))

theorem target_unfinishedFile_ne_scratch (disk : Disk) (directory : String) (number : Nat) :
    disk.target (repository.unfinishedFile message attachment) ≠
      disk.target (Path.join directory (ScratchFile.name number)) := by
  rw [target_unfinishedFile]
  exact place_ne_scratch (stem_ending_ne (by decide) (by decide) (by decide))

end Repository

end AttachmentFetch
