import AttachmentFetch.Client
import AttachmentFetch.Proofs.Attachment.Key
import AttachmentFetch.Proofs.Download.Transfer
import AttachmentFetch.Proofs.Envelope
import AttachmentFetch.Proofs.Job.Effect
import AttachmentFetch.Proofs.Store.Insertion

/-! Where content comes from. Whatever an attempt hands to the store, the same
attempt has received in a complete response and, if the pointer asks for it, verified;
the server may answer as it likes. -/
namespace AttachmentFetch

structure Authenticated (pointer : Pointer) (blob : Bytes) (content : Content) : Prop where
  whole : content.failure = none
  opened : ∃ text key digest, pointer.key = some text ∧ text ≠ "" ∧
    pointer.digest = some digest ∧ digest ≠ [] ∧
    Text.Base64.decode (Text.Utf8.encode text) = .ok key ∧
    Envelope.Verified blob pointer.size key digest content.bytes
  size : pointer.size = 0 ∨ pointer.size.toNat = content.bytes.length

/-- The content is the blob as it is read from the disk: all of it, or as much as
comes before the disk fails. -/
def ReadFrom (disk : Disk) (blob : Bytes) (content : Content) : Prop :=
  content = { bytes := blob } ∨ ∃ fault, some fault ∈ disk.faults ∧
    content = { bytes := blob.take fault.written, failure := some fault.error }

/-- What was seen before content was handed over: in the same attempt the pointer was
found, the download begun, and a blob received that the content is, or is in. -/
inductive HandedOver (settings : DownloadSettings) (task : DownloadTask) :
    List (Sighting Backend) → Sighting Backend → Prop
  | intro {before found marked fetched opened handed pointer content result response blob}
    (found_call : found.call = .findPointer task.attachment (.ok (some pointer)))
    (marked_call : marked.call = .setState .started task.attachment task.message (.ok ()))
    (fetched_call : ∃ path, fetched.call =
      .download path pointer.url settings.maxBytes settings.options (.ok ()))
    (opened_calls : ∀ sighting ∈ opened, ∃ path key digest result,
      sighting.call = .openSealed path pointer.size key digest result)
    (handed_call : handed.call = .insertContent task.message pointer.id content result)
    (met : Http.Met fetched.before.rest.network fetched.after.rest.network response)
    (success : Http.isSuccess response.status = true)
    (complete : response.ending = .complete)
    (carried : Transfer.Carries settings.options.format response blob)
    (within : blob.length ≤ settings.maxBytes.toNat)
    (authenticated : pointer.isSealed = true → Authenticated pointer blob content)
    (read : pointer.isSealed = false → ReadFrom fetched.after.disk blob content)
    (stored : result = .ok () → content.failure = none) :
    HandedOver settings task (before ++ [found, marked, fetched] ++ opened) handed

def AllHandedOver (settings : DownloadSettings) (task : DownloadTask)
    (seen : List (Sighting Backend)) : Prop :=
  ∀ earlier handed later, seen = earlier ++ handed :: later →
    handed.call.isInsertion = true → HandedOver settings task earlier handed

theorem HandedOver.after {settings : DownloadSettings} {task : DownloadTask}
    {earlier : List (Sighting Backend)} {handed : Sighting Backend}
    (h : HandedOver settings task earlier handed) (before : List (Sighting Backend)) :
    HandedOver settings task (before ++ earlier) handed := by
  cases h with
  | @intro before' found marked fetched opened _ _ _ _ _ _ found_call marked_call fetched_call
      opened_calls handed_call met success complete carried within authenticated read stored =>
    have split : before ++ (before' ++ [found, marked, fetched] ++ opened) =
        (before ++ before') ++ [found, marked, fetched] ++ opened := by
      simp only [List.append_assoc]
    rw [split]
    exact .intro found_call marked_call fetched_call opened_calls handed_call met success complete
      carried within authenticated read stored

namespace AllHandedOver
variable {settings : DownloadSettings} {task : DownloadTask} {seen later : List (Sighting Backend)}

theorem append (h : AllHandedOver settings task seen) (h' : AllHandedOver settings task later) :
    AllHandedOver settings task (seen ++ later) := by
  intro earlier handed rest split insertion
  -- What was handed over lies in the later part or, if something of the earlier is left, there.
  rcases List.append_eq_append_iff.1 split with ⟨between, rfl, inLater⟩ | ⟨between, inSeen, joint⟩
  · exact (h' between handed rest inLater insertion).after seen
  · cases between with
    | nil =>
      rw [List.append_nil] at inSeen
      rw [← inSeen, ← List.append_nil seen]
      exact (h' [] handed rest joint.symm insertion).after seen
    | cons first between =>
      rw [List.cons_append] at joint
      injection joint with same
      exact h earlier handed between (same ▸ inSeen) insertion

theorem of_none (h : ∀ sighting ∈ seen, sighting.call.isInsertion = false) :
    AllHandedOver settings task seen := by
  rintro earlier handed rest rfl insertion
  rw [h handed (by simp)] at insertion
  cases insertion

theorem snoc {last : Sighting Backend}
    (none : ∀ sighting ∈ seen, sighting.call.isInsertion = false)
    (h : HandedOver settings task seen last) : AllHandedOver settings task (seen ++ [last]) := by
  intro earlier handed rest split insertion
  by_cases inSeen : handed ∈ seen
  · rw [none handed inSeen] at insertion
    cases insertion
  · have listed : handed ∈ seen ++ [last] := by simp [split]
    obtain rfl : handed = last := by simpa [inSeen] using listed
    obtain ⟨rfl, -, -⟩ := (List.append_cons_inj_of_notMem inSeen List.not_mem_nil).1 split
    exact h

end AllHandedOver

section Pieces
variable {repository : Repository} {pointer : Pointer} {path : String}

theorem authenticated_of_opened {scene after : Scene Backend} {blob key : Bytes}
    {content : Content} {limit : UInt64} (isSealed : pointer.isSealed = true)
    (keyed : pointer.keyBytes = .ok key)
    (held : scene.disk.file? (scene.disk.target path) = some blob)
    (within : blob.length ≤ limit.toNat)
    (opened : (Envelope.openFile path pointer.size key (pointer.digest.getD [])).on scene =
      (.ok content, after)) :
    Authenticated pointer blob content := by
  obtain ⟨text, digest, key_eq, textual, digest_eq, nonempty⟩ := isSealed_iff.1 isSealed
  obtain ⟨whole, envelope, held', verified⟩ := Envelope.openFile_ok opened
  obtain rfl : blob = envelope := Option.some.inj (held.symm.trans held')
  rw [digest_eq, Option.getD_some] at verified
  have decoded := keyBytes_ok key_eq keyed
  refine ⟨whole, ⟨text, key, digest, key_eq, textual, digest_eq, nonempty, decoded, verified⟩, ?_⟩
  exact verified.size_toNat (Nat.lt_of_le_of_lt within limit.toNat_lt)

theorem readFrom_of_plain {services : Services Backend} {scene after : Scene Backend}
    {blob : Bytes} {content : Content} (isSealed : pointer.isSealed = false)
    (held : scene.disk.file? (scene.disk.target path) = some blob)
    (read : (DownloadJob.openContent services pointer path).on scene = (.ok content, after)) :
    ReadFrom scene.disk blob content := by
  simp only [DownloadJob.openContent, isSealed, Bool.false_eq_true, if_false] at read
  obtain ⟨file, _, opening, read⟩ := Step.bind_ok read
  obtain ⟨disk, opened, rfl⟩ := Step.onDisk_ok (Step.mapError_ok opening)
  obtain ⟨rfl, rfl⟩ := Disk.openToRead_ok opened
  obtain ⟨⟨bytes, failure⟩, _, draining, read⟩ := Step.bind_ok read
  obtain ⟨disk, drained, rfl⟩ := Step.onDisk_ok (Step.mapError_ok draining)
  cases read
  have held' : scene.disk.started.file? (scene.disk.target path) = some blob := held
  rcases Disk.drain_on held' with all | ⟨fault, listed, begun⟩
  · cases all.symm.trans drained
    exact .inl rfl
  · cases begun.symm.trans drained
    exact .inr ⟨fault, List.mem_of_mem_tail listed, rfl⟩

end Pieces

namespace DownloadJob
variable {repository : Repository} {settings : DownloadSettings} {task : DownloadTask}

theorem Opened.calls {services : Services ρ} {pointer : Pointer} {path : String}
    {start after : Scene ρ} {seen : List (Sighting ρ)} {result : Except AttemptError Content}
    (opened : Opened services pointer path start seen result after) :
    ∀ sighting ∈ seen, ∃ path key digest result,
      sighting.call = .openSealed path pointer.size key digest result := by
  cases opened with
  | unsealed =>
    intro sighting listed
    rw [List.mem_singleton.1 listed]
    exact ⟨_, _, _, _, rfl⟩
  | keyless | plain => exact nofun

theorem Opened.noInsertion {services : Services ρ} {pointer : Pointer} {path : String}
    {start after : Scene ρ} {seen : List (Sighting ρ)} {result : Except AttemptError Content}
    (opened : Opened services pointer path start seen result after) :
    ∀ sighting ∈ seen, sighting.call.isInsertion = false := by
  intro sighting listed
  obtain ⟨_, _, _, _, call⟩ := opened.calls sighting listed
  rw [call]
  rfl

theorem Opened.content {pointer : Pointer} {path : String} {start after : Scene Backend}
    {seen : List (Sighting Backend)} {content : Content} {blob : Bytes} {limit : UInt64}
    (opened : Opened repository.services pointer path start seen (.ok content) after)
    (held : start.disk.file? (start.disk.target path) = some blob)
    (within : blob.length ≤ limit.toNat) :
    (pointer.isSealed = true → Authenticated pointer blob content) ∧
      (pointer.isSealed = false → ReadFrom start.disk blob content) := by
  generalize result_eq : (Except.ok content : Except AttemptError Content) = result at opened
  cases opened with
  | keyless => cases result_eq
  | @unsealed key result _ isSealed keyed opened =>
    cases result with
    | error => cases result_eq
    | ok content' =>
      cases result_eq
      have authenticated := authenticated_of_opened isSealed keyed held within opened
      exact ⟨fun _ => authenticated, fun plain => Bool.noConfusion (isSealed.symm.trans plain)⟩
  | plain isSealed read =>
    subst result_eq
    exact ⟨fun isSealed' => Bool.noConfusion (isSealed.symm.trans isSealed'),
      fun _ => readFrom_of_plain isSealed held read⟩

theorem Attempted.allHandedOver {start after : Scene Backend} {seen : List (Sighting Backend)}
    {result : Except AttemptError Unit}
    (attempted : Attempted repository.services settings task start seen result after) :
    AllHandedOver settings task seen := by
  cases attempted with
  | unfound | absent | unmarked | unmade => exact .of_none (by simp [ServiceCall.isInsertion])
  | @ended pointer middle marking file making _ _ last _ _ _ _ delivered _ =>
    cases delivered with
    | undelivered => exact .of_none (by simp [ServiceCall.isInsertion])
    | unopened _ opened =>
      apply AllHandedOver.of_none
      simpa [ServiceCall.isInsertion] using opened.noInsertion
    | @handed fetched seen content ready result _ fetching opened inserting =>
      obtain ⟨response, blob, met, success, complete, carried, within, held⟩ :=
        Transfer.download_ok fetching
      obtain ⟨authenticated, read⟩ := opened.content held within
      have handedOver : HandedOver settings task
          ([] ++ [⟨.findPointer task.attachment (.ok (some pointer)), start, middle⟩,
            ⟨.setState .started task.attachment task.message (.ok ()), middle, marking⟩,
            ⟨.download file.path pointer.url settings.maxBytes settings.options (.ok ()),
              making, fetched⟩] ++ seen)
          ⟨.insertContent task.message pointer.id content result, ready, last⟩ := by
        refine .intro rfl rfl ⟨_, rfl⟩ opened.calls rfl met success complete carried within
          authenticated read ?_
        rintro rfl
        exact (Repository.insertContent_ok inserting).1
      refine .snoc ?_ handedOver
      simpa [ServiceCall.isInsertion] using opened.noInsertion

theorem Ran.allHandedOver {start after : Scene Backend} {seen : List (Sighting Backend)}
    {ending : JobEnding} (ran : Ran repository.services settings task start seen ending after) :
    AllHandedOver settings task seen := by
  induction ran with
  | succeeded attempted => exact attempted.allHandedOver
  | givenUp attempted =>
    refine attempted.allHandedOver.append (.of_none fun sighting listed => ?_)
    rw [List.mem_singleton.1 listed]
    rfl
  | again attempted _ _ ih => exact attempted.allHandedOver.append ih

end DownloadJob

end AttachmentFetch
