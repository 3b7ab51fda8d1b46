import AttachmentFetch.Proofs.Disk.Calls
import AttachmentFetch.Proofs.Job.Provenance
import AttachmentFetch.Proofs.Job.Verdict

/-! The protocol of one execution: which calls it makes of its services, in which order,
when and with what, and how its outcome follows from what came of them. -/
namespace AttachmentFetch

/-- What a call is made for, whatever it is given. -/
inductive CallKind where
  | find
  | set (state : AttachmentState)
  | download
  | openSealed
  | insert
  deriving DecidableEq, Repr

def ServiceCall.kind : ServiceCall → CallKind
  | findPointer .. => .find
  | setState state .. => .set state
  | download .. => .download
  | openSealed .. => .openSealed
  | insertContent .. => .insert

def calls (seen : List (Sighting ρ)) : List ServiceCall := seen.map (·.call)

@[simp] theorem calls_nil : calls ([] : List (Sighting ρ)) = [] := rfl

@[simp] theorem calls_cons (sighting : Sighting ρ) (later : List (Sighting ρ)) :
    calls (sighting :: later) = sighting.call :: calls later := rfl

@[simp] theorem calls_append (seen later : List (Sighting ρ)) :
    calls (seen ++ later) = calls seen ++ calls later :=
  List.map_append

/-- What the key text and the digest of a sealed attachment come to. -/
def Pointer.OpensWith (pointer : Pointer) (key digest : Bytes) : Prop :=
  ∃ text, pointer.key = some text ∧ text ≠ "" ∧
    Text.Base64.decode (Text.Utf8.encode text) = .ok key ∧
    pointer.digest = some digest ∧ digest ≠ []

/-- The content is what can be read of the file that a path leads to: all that it holds,
unless an error ends the reading early. -/
def Disk.Yields (disk : Disk) (path : String) (content : Content) : Prop :=
  (∃ place opened read, (openToRead path).on disk = (.ok place, opened) ∧
      (drain place).on opened = (.ok (content.bytes, content.failure), read)) ∧
    (content.failure = none → disk.content? path = some content.bytes)

namespace Pointer
variable {pointer : Pointer} {key digest : Bytes}

theorem opensWith_iff : pointer.OpensWith key digest ↔
    pointer.isSealed = true ∧ pointer.keyBytes = .ok key ∧ pointer.digest.getD [] = digest := by
  constructor
  · rintro ⟨text, key_eq, textual, decoded, digest_eq, nonempty⟩
    refine ⟨isSealed_iff.2 ⟨text, digest, key_eq, textual, digest_eq, nonempty⟩,
      keyBytes_of_text key_eq textual decoded, ?_⟩
    rw [digest_eq, Option.getD_some]
  · rintro ⟨isSealed, keyed, rfl⟩
    obtain ⟨text, digest, key_eq, textual, digest_eq, nonempty⟩ := isSealed_iff.1 isSealed
    rw [digest_eq, Option.getD_some]
    exact ⟨text, key_eq, textual, keyBytes_ok key_eq keyed, digest_eq, nonempty⟩

end Pointer

/-- A key that is no key may be replaced before the next attempt. -/
theorem Pointer.keyBytes_retryable {pointer : Pointer} {error : OpenError}
    (keyless : pointer.keyBytes = .error error) : error.prospect = .retryable := by
  unfold Pointer.keyBytes at keyless
  split at keyless
  · cases keyless
    rfl
  · split at keyless <;> cases keyless
    rfl

theorem OpenError.permanent_iff {error : OpenError} :
    error.prospect = .permanent ↔ ∃ text, .parseFailure text = error := by
  cases error <;> simp [prospect]

theorem TransferError.permanent_iff {error : TransferError} :
    error.prospect = .permanent ↔ ∃ text, .parseFailure text = error := by
  cases error <;> simp [prospect]

theorem Disk.drain_whole {disk opened read : Disk} {path : String} {place : Place} {bytes : Bytes}
    (opening : (openToRead path).on disk = (.ok place, opened))
    (draining : (drain place).on opened = (.ok (bytes, none), read)) :
    disk.content? path = some bytes := by
  obtain ⟨rfl, rfl⟩ := openToRead_ok opening
  have found := faultable_ok opening
  rw [find_started] at found
  split at found
  next node found' =>
    obtain ⟨-, node_eq⟩ := find_eq_ok found'
    unfold drain Step.on at draining
    dsimp only at draining
    rw [node?_started, node_eq] at draining
    unfold content?
    rw [found']
    cases node with
    | directory => split at draining <;> cases draining
    | file content =>
      split at draining <;> cases draining
      rfl
  next => cases found

theorem Disk.drain_total (place : Place) (disk : Disk) :
    ∃ bytes failure after, (drain place).on disk = (.ok (bytes, failure), after) := by
  unfold drain Step.on
  dsimp only
  split <;> exact ⟨_, _, _, rfl⟩

theorem Outcome.error?_ofError (error : AttemptError) : (ofError error).error? = some error := by
  unfold ofError
  cases error.prospect <;> rfl

namespace DownloadJob

section Protocol
variable (settings : DownloadSettings) (task : DownloadTask) (seen : List (Sighting ρ))

def Pointed (pointer : Pointer) : Prop :=
  .findPointer task.attachment (.ok (some pointer)) ∈ calls seen

/-- After the store had taken note, a scratch file was made at the path. -/
def Prepared (path : String) : Prop :=
  ∃ marked ∈ seen, marked.call = .setState .started task.attachment task.message (.ok ()) ∧
    ∃ disk, (ScratchFile.makeIn settings.cacheDirectory).on marked.after.disk = (.ok ⟨path⟩, disk)

/-- The content of what was downloaded: what the cipher gave, if the attachment is sealed,
and otherwise what the file holds when the download has ended. -/
def Yielded (pointer : Pointer) (content : Content) : Prop :=
  (∃ path key digest, .openSealed path pointer.size key digest (.ok content) ∈ calls seen) ∨
    pointer.isSealed = false ∧ ∃ fetched ∈ seen, ∃ path,
      fetched.call = .download path pointer.url settings.maxBytes settings.options (.ok ()) ∧
      fetched.after.disk.Yields path content

/-- What was reported that no other attempt could mend. -/
def Hopeless : Prop :=
  .findPointer task.attachment (.ok none) ∈ calls seen ∨
    (∃ path url limit options text,
      .download path url limit options (.error (.parseFailure text)) ∈ calls seen) ∨
    ∃ path expected key digest text,
      .openSealed path expected key digest (.error (.parseFailure text)) ∈ calls seen

/-- Which calls of an attempt are made, and with what. -/
structure Calls : Prop where
  find : ∃ result, .findPointer task.attachment result ∈ calls seen
  start : ∀ attachment message,
    (∃ result, .setState .started attachment message result ∈ calls seen) ↔
      (∃ pointer, Pointed task seen pointer) ∧
        attachment = task.attachment ∧ message = task.message
  download : ∀ path url limit options,
    (∃ result, .download path url limit options result ∈ calls seen) ↔
      ∃ pointer, Pointed task seen pointer ∧ Prepared settings task seen path ∧
        url = pointer.url ∧ limit = settings.maxBytes ∧ options = settings.options
  openSealed : ∀ path expected key digest,
    (∃ result, .openSealed path expected key digest result ∈ calls seen) ↔
      ∃ pointer, Pointed task seen pointer ∧
        .download path pointer.url settings.maxBytes settings.options (.ok ()) ∈ calls seen ∧
        pointer.OpensWith key digest ∧ expected = pointer.size
  insert : ∀ message attachment content,
    (∃ result, .insertContent message attachment content result ∈ calls seen) ↔
      ∃ pointer, Pointed task seen pointer ∧ Yielded settings seen pointer content ∧
        message = task.message ∧ attachment = pointer.id

/-- An execution that keeps to the protocol. -/
structure Protocol (outcome : Outcome AttemptError) : Prop extends Calls settings task seen where
  ordered : List.Sublist ((calls seen).map (·.kind))
    [.find, .set .started, .download, .openSealed, .insert, .set .failed]
  giveUp : ∀ attachment message,
    (∃ result, .setState .failed attachment message result ∈ calls seen) ↔
      (∃ error, outcome = .failedPermanently error) ∧
        attachment = task.attachment ∧ message = task.message
  succeeded : outcome = .succeeded ↔
    ∃ message attachment content, .insertContent message attachment content (.ok ()) ∈ calls seen
  failedPermanently : (∃ error, outcome = .failedPermanently error) ↔ Hopeless task seen

end Protocol

variable {services : Services ρ} {settings : DownloadSettings} {task : DownloadTask}
  {pointer : Pointer} {path : String} {start after : Scene ρ} {seen : List (Sighting ρ)}

theorem openContent_plain (isSealed : pointer.isSealed = false)
    {result : Except AttemptError Content}
    (read : (openContent services pointer path).on start = (result, after)) :
    (∀ content, result = .ok content ↔ start.disk.Yields path content) ∧
      ∀ error, result = .error error → error.prospect = .retryable := by
  simp only [openContent, isSealed, Bool.false_eq_true, if_false] at read
  rcases opening : (Disk.openToRead path).on start.disk with ⟨error | place, opened⟩
  · have failing : ((Scene.onDisk (Disk.openToRead path)).mapError AttemptError.scratchFile).on
        start = (.error (.scratchFile error), { start with disk := opened }) := by
      simp [opening, Except.mapError]
    rw [Step.bind_of_error failing] at read
    cases read
    refine ⟨fun content => ⟨?_, ?_⟩, ?_⟩
    · rintro ⟨⟩
    · rintro ⟨⟨place, _, _, opened, _⟩, _⟩
      cases opening.symm.trans opened
    · rintro _ ⟨⟩
      rfl
  · obtain ⟨bytes, failure, drained, draining⟩ := Disk.drain_total place opened
    have opening' : ((Scene.onDisk (Disk.openToRead path)).mapError AttemptError.scratchFile).on
        start = (.ok place, { start with disk := opened }) := by
      simp [opening, Except.mapError]
    have draining' : ((Scene.onDisk (Disk.drain place)).mapError AttemptError.scratchFile).on
        { start with disk := opened } =
        (.ok (bytes, failure), { start with disk := drained }) := by
      simp [draining, Except.mapError]
    rw [Step.bind_of_ok opening', Step.bind_of_ok draining'] at read
    cases read
    refine ⟨fun content => ⟨?_, ?_⟩, ?_⟩
    · rintro ⟨⟩
      refine ⟨⟨place, opened, drained, opening, draining⟩, ?_⟩
      rintro rfl
      exact Disk.drain_whole opening draining
    · rintro ⟨⟨_, _, _, opening', draining'⟩, _⟩
      cases opening.symm.trans opening'
      cases draining.symm.trans draining'
      rfl
    · rintro _ ⟨⟩

structure OpeningProtocol (pointer : Pointer) (path : String) (start : Scene ρ)
    (seen : List (Sighting ρ)) (result : Except AttemptError Content) : Prop where
  ordered : List.Sublist ((calls seen).map (·.kind)) [.openSealed]
  openSealed : ∀ source expected key digest,
    (∃ result, .openSealed source expected key digest result ∈ calls seen) ↔
      source = path ∧ pointer.OpensWith key digest ∧ expected = pointer.size
  yielded : ∀ content, result = .ok content ↔
    (∃ source key digest, .openSealed source pointer.size key digest (.ok content) ∈ calls seen) ∨
      pointer.isSealed = false ∧ start.disk.Yields path content
  permanent : (∃ error, result = .error error ∧ error.prospect = .permanent) ↔
    ∃ source expected key digest text,
      .openSealed source expected key digest (.error (.parseFailure text)) ∈ calls seen

theorem Opened.protocol {result : Except AttemptError Content}
    (opened : Opened services pointer path start seen result after) :
    OpeningProtocol pointer path start seen result := by
  cases opened with
  | @keyless error isSealed key =>
    have mendable := Pointer.keyBytes_retryable key
    refine ⟨List.nil_sublist _, ?_, ?_, ?_⟩
    · simp [Pointer.opensWith_iff, key]
    · simp [isSealed]
    · simp [AttemptError.prospect, mendable]
  | @unsealed key result _ isSealed keyed opened =>
    refine ⟨List.Sublist.refl _, fun source expected key' digest => ⟨?_, ?_⟩, ?_, ?_⟩
    · rintro ⟨result', listed⟩
      cases List.mem_singleton.1 listed
      exact ⟨rfl, Pointer.opensWith_iff.2 ⟨isSealed, keyed, rfl⟩, rfl⟩
    · rintro ⟨rfl, opens, rfl⟩
      obtain ⟨-, keyed', rfl⟩ := Pointer.opensWith_iff.1 opens
      cases keyed.symm.trans keyed'
      exact ⟨result, List.mem_singleton_self _⟩
    · cases result <;> simp [isSealed, Except.mapError, eq_comm]
    · cases result <;> simp [AttemptError.prospect, Except.mapError, OpenError.permanent_iff]
  | @plain result _ isSealed read =>
    obtain ⟨yields, mendable⟩ := openContent_plain isSealed read
    refine ⟨List.nil_sublist _, ?_, ?_, ⟨?_, ?_⟩⟩
    · simp [Pointer.opensWith_iff, isSealed]
    · simp [isSealed, yields]
    · rintro ⟨error, failed, permanent⟩
      cases (mendable error failed).symm.trans permanent
    · rintro ⟨_, _, _, _, _, ⟨⟩⟩

structure DeliveryProtocol (settings : DownloadSettings) (task : DownloadTask)
    (pointer : Pointer) (path : String) (seen : List (Sighting ρ))
    (result : Except AttemptError Unit) : Prop where
  ordered : List.Sublist ((calls seen).map (·.kind)) [.download, .openSealed, .insert]
  download : ∀ destination url limit options,
    (∃ result, .download destination url limit options result ∈ calls seen) ↔
      destination = path ∧ url = pointer.url ∧ limit = settings.maxBytes ∧
        options = settings.options
  openSealed : ∀ source expected key digest,
    (∃ result, .openSealed source expected key digest result ∈ calls seen) ↔
      .download source pointer.url settings.maxBytes settings.options (.ok ()) ∈ calls seen ∧
        pointer.OpensWith key digest ∧ expected = pointer.size
  insert : ∀ message attachment content,
    (∃ result, .insertContent message attachment content result ∈ calls seen) ↔
      Yielded settings seen pointer content ∧ message = task.message ∧ attachment = pointer.id
  stored : result = .ok () ↔
    ∃ message attachment content, .insertContent message attachment content (.ok ()) ∈ calls seen
  permanent : (∃ error, result = .error error ∧ error.prospect = .permanent) ↔
    (∃ path url limit options text,
      .download path url limit options (.error (.parseFailure text)) ∈ calls seen) ∨
    ∃ source expected key digest text,
      .openSealed source expected key digest (.error (.parseFailure text)) ∈ calls seen

theorem OpeningProtocol.kind {result : Except AttemptError Content}
    (opening : OpeningProtocol pointer path start seen result) :
    ∀ call ∈ calls seen, call.kind = .openSealed := by
  intro call listed
  exact List.mem_singleton.1 (opening.ordered.subset (List.mem_map_of_mem listed))

variable (settings start) in
theorem OpeningProtocol.yielded_iff {result : Except AttemptError Content}
    (opening : OpeningProtocol pointer path after seen result) (later : List (Sighting ρ))
    (inserts : ∀ call ∈ calls later, call.kind = .insert) (content : Content) :
    Yielded settings (⟨.download path pointer.url settings.maxBytes settings.options (.ok ()),
        start, after⟩ :: (seen ++ later)) pointer content ↔
      result = .ok content := by
  rw [opening.yielded]
  constructor
  · rintro (⟨source, key, digest, listed⟩ | ⟨isSealed, fetched, listed, source, call, yields⟩)
    · simp only [calls_cons, calls_append, List.mem_cons, reduceCtorEq, false_or,
        List.mem_append] at listed
      rcases listed with listed | listed
      · exact .inl ⟨source, key, digest, listed⟩
      · cases inserts _ listed
    · simp only [List.mem_cons, List.mem_append] at listed
      rcases listed with rfl | listed | listed
      · cases call
        exact .inr ⟨isSealed, yields⟩
      · have kind := opening.kind _ (List.mem_map_of_mem listed)
        rw [call] at kind
        cases kind
      · have kind := inserts _ (List.mem_map_of_mem listed)
        rw [call] at kind
        cases kind
  · rintro (⟨source, key, digest, listed⟩ | ⟨isSealed, yields⟩)
    · exact .inl ⟨source, key, digest, by simp [listed]⟩
    · exact .inr ⟨isSealed, _, List.mem_cons_self, path, rfl, yields⟩

theorem Delivered.protocol {result : Except AttemptError Unit}
    (delivered : Delivered services settings task pointer path start seen result after) :
    DeliveryProtocol settings task pointer path seen result := by
  cases delivered with
  | @undelivered error _ fetched =>
    refine ⟨?_, ?_, ?_, ?_, ?_, ?_⟩
    · simp [ServiceCall.kind]
    · simp [eq_comm]
    · simp
    · simp [Yielded]
    · simp
    · simp [AttemptError.prospect, TransferError.permanent_iff]
  | @unopened middle seen error _ fetched opened =>
    have opening := opened.protocol
    have noDownload path url limit options result :
        .download path url limit options result ∉ calls seen := fun h => nomatch opening.kind _ h
    have noInsert message attachment content result :
        .insertContent message attachment content result ∉ calls seen :=
      fun h => nomatch opening.kind _ h
    have unyielded := opening.yielded_iff settings start [] (by simp)
    rw [List.append_nil] at unyielded
    refine ⟨?_, ?_, ?_, ?_, ?_, ?_⟩
    · exact (opening.ordered.trans (by simp)).cons_cons _
    · simp [noDownload, eq_comm]
    · simp [noDownload, opening.openSealed]
    · simp [noInsert, unyielded]
    · simp [noInsert]
    · simp [noDownload, ← opening.permanent]
  | @handed middle seen content ready result _ fetched opened inserted =>
    have opening := opened.protocol
    have noDownload path url limit options result :
        .download path url limit options result ∉ calls seen := fun h => nomatch opening.kind _ h
    have noInsert message attachment content result :
        .insertContent message attachment content result ∉ calls seen :=
      fun h => nomatch opening.kind _ h
    have yielded := opening.yielded_iff settings start
      [⟨.insertContent task.message pointer.id content result, ready, after⟩]
      (by simp [ServiceCall.kind])
    have mended := opening.permanent
    refine ⟨?_, ?_, ?_, ?_, ?_, ?_⟩
    · rw [calls_cons, calls_append, List.map_cons, List.map_append]
      exact (opening.ordered.append (List.Sublist.refl [.insert])).cons_cons _
    · simp [noDownload, eq_comm]
    · simp [noDownload, opening.openSealed]
    · simp only [noInsert, yielded, calls_cons, calls_append, calls_nil, List.mem_cons,
        List.mem_append, List.not_mem_nil, ServiceCall.insertContent.injEq, Except.ok.injEq,
        reduceCtorEq, false_or, or_false, exists_and_left, exists_eq, and_true]
      intro message attachment content'
      constructor
      · rintro ⟨rfl, rfl, rfl⟩
        exact ⟨rfl, rfl, rfl⟩
      · rintro ⟨rfl, rfl, rfl⟩
        exact ⟨rfl, rfl, rfl⟩
    · cases result <;> simp [noInsert, Except.mapError]
    · cases result <;>
        simp [noDownload, ← opening.permanent, AttemptError.prospect, Except.mapError]

structure AttemptProtocol (settings : DownloadSettings) (task : DownloadTask)
    (seen : List (Sighting ρ)) (result : Except AttemptError Unit) : Prop
    extends Calls settings task seen where
  ordered : List.Sublist ((calls seen).map (·.kind))
    [.find, .set .started, .download, .openSealed, .insert]
  stored : result = .ok () ↔
    ∃ message attachment content, .insertContent message attachment content (.ok ()) ∈ calls seen
  permanent : (∃ error, result = .error error ∧ error.prospect = .permanent) ↔ Hopeless task seen

theorem prepared_iff {attachment : AttachmentId} {found : Except ErrorChain (Option Pointer)}
    {middle ready : Scene ρ}
    (noState : ∀ state attachment message result,
      .setState state attachment message result ∉ calls seen) :
    Prepared settings task (⟨.findPointer attachment found, start, middle⟩ ::
        ⟨.setState .started task.attachment task.message (.ok ()), middle, ready⟩ :: seen) path ↔
      ((ScratchFile.makeIn settings.cacheDirectory).on ready.disk).1 = .ok ⟨path⟩ := by
  constructor
  · rintro ⟨marked, listed, call, disk, made⟩
    simp only [List.mem_cons] at listed
    rcases listed with rfl | rfl | listed
    · cases call
    · rw [made]
    · have again : marked.call ∈ calls seen := List.mem_map_of_mem listed
      rw [call] at again
      exact absurd again (noState _ _ _ _)
  · intro made
    exact ⟨_, List.mem_cons_of_mem _ List.mem_cons_self, rfl, _, Prod.ext made rfl⟩

theorem yielded_cons {sighting : Sighting ρ} {content : Content}
    (kind : sighting.call.kind ≠ .download) (kind' : sighting.call.kind ≠ .openSealed) :
    Yielded settings (sighting :: seen) pointer content ↔
      Yielded settings seen pointer content := by
  obtain ⟨call, before, after⟩ := sighting
  cases call <;> simp_all [Yielded, ServiceCall.kind]

theorem Attempted.protocol {result : Except AttemptError Unit}
    (attempted : Attempted services settings task start seen result after) :
    AttemptProtocol settings task seen result := by
  cases attempted with
  | unfound found =>
    refine ⟨⟨?_, ?_, ?_, ?_, ?_⟩, ?_, ?_, ?_⟩
    · simp
    · simp [Pointed]
    · simp [Pointed]
    · simp
    · simp [Pointed]
    · simp [ServiceCall.kind]
    · simp
    · simp [Hopeless, AttemptError.prospect]
  | absent found =>
    refine ⟨⟨?_, ?_, ?_, ?_, ?_⟩, ?_, ?_, ?_⟩
    · simp
    · simp [Pointed]
    · simp [Pointed]
    · simp
    · simp [Pointed]
    · simp [ServiceCall.kind]
    · simp
    · simp [Hopeless, AttemptError.prospect]
  | unmarked found marked =>
    refine ⟨⟨?_, ?_, ?_, ?_, ?_⟩, ?_, ?_, ?_⟩
    · simp
    · simp [Pointed, eq_comm]
    · simp [Prepared]
    · simp
    · simp [Yielded]
    · simp [ServiceCall.kind]
    · simp
    · simp [Hopeless, AttemptError.prospect]
  | unmade found marked made =>
    obtain ⟨disk, unmade, -⟩ := Step.onDisk_error made
    refine ⟨⟨?_, ?_, ?_, ?_, ?_⟩, ?_, ?_, ?_⟩
    · simp
    · simp [Pointed, eq_comm]
    · simp [prepared_iff, unmade]
    · simp
    · simp [Yielded]
    · simp [ServiceCall.kind]
    · simp
    · simp [Hopeless, AttemptError.prospect]
  | @ended pointer middle ready file _ seen result last _ found marked made delivered cleared =>
    obtain ⟨disk, made', -⟩ := Step.onDisk_ok made
    obtain ⟨path⟩ := file
    have delivery := delivered.protocol
    have kind : ∀ call ∈ calls seen,
        call.kind = .download ∨ call.kind = .openSealed ∨ call.kind = .insert := by
      intro call listed
      simpa using delivery.ordered.subset (List.mem_map_of_mem listed)
    have noFind attachment result : .findPointer attachment result ∉ calls seen := by
      intro listed
      simpa [ServiceCall.kind] using kind _ listed
    have noState state attachment message result :
        .setState state attachment message result ∉ calls seen := by
      intro listed
      simpa [ServiceCall.kind] using kind _ listed
    have yielded content : Yielded settings
        (⟨.findPointer task.attachment (.ok (some pointer)), start, middle⟩ ::
          ⟨.setState .started task.attachment task.message (.ok ()), middle, ready⟩ :: seen)
        pointer content ↔ Yielded settings seen pointer content :=
      (yielded_cons (by simp [ServiceCall.kind]) (by simp [ServiceCall.kind])).trans
        (yielded_cons (by simp [ServiceCall.kind]) (by simp [ServiceCall.kind]))
    refine ⟨⟨?_, ?_, ?_, ?_, ?_⟩, ?_, ?_, ?_⟩
    · simp
    · simp [Pointed, noFind, noState, eq_comm]
    · simp [Pointed, prepared_iff noState, noFind, made', delivery.download, eq_comm]
    · simp [Pointed, noFind, delivery.openSealed]
    · simp [Pointed, noFind, delivery.insert, yielded]
    · exact (delivery.ordered.cons_cons _).cons_cons _
    · simp [delivery.stored]
    · simp [Hopeless, noFind, delivery.permanent]

theorem Calls.andGivenUp (calls : Calls settings task seen) {last : Sighting ρ}
    (kind : last.call.kind = .set .failed) : Calls settings task (seen ++ [last]) := by
  obtain ⟨call, before, after⟩ := last
  obtain ⟨attachment, message, result, rfl⟩ : ∃ attachment message result,
      call = .setState .failed attachment message result := by
    cases call <;> simp_all [ServiceCall.kind]
  have prepared path : Prepared settings task
      (seen ++ [⟨.setState .failed attachment message result, before, after⟩]) path ↔
        Prepared settings task seen path := by
    simp [Prepared, or_and_right, exists_or]
  have yielded pointer content : Yielded settings
      (seen ++ [⟨.setState .failed attachment message result, before, after⟩]) pointer content ↔
        Yielded settings seen pointer content := by
    simp [Yielded, or_and_right, exists_or]
  refine ⟨?_, ?_, ?_, ?_, ?_⟩
  · simpa using calls.find
  · simpa [Pointed] using calls.start
  · simpa [Pointed, prepared] using calls.download
  · simpa [Pointed] using calls.openSealed
  · simpa [Pointed, yielded] using calls.insert

theorem AttemptProtocol.notGivenUp {result : Except AttemptError Unit}
    (attempt : AttemptProtocol settings task seen result) (attachment : AttachmentId)
    (message : MessageId) (written : Except ErrorChain Unit) :
    .setState .failed attachment message written ∉ calls seen := by
  intro listed
  simpa [ServiceCall.kind] using attempt.ordered.subset (List.mem_map_of_mem listed)

theorem Executed.protocol {outcome : Outcome AttemptError}
    (executed : Executed services settings task start seen outcome after)
    (classified : ∀ error, outcome.error? = some error → outcome = .ofError error) :
    Protocol settings task seen outcome := by
  cases executed with
  | succeeded attempted noted =>
    have attempt := attempted.protocol
    refine ⟨attempt.toCalls, attempt.ordered.trans (by simp), ?_, ?_, ?_⟩
    · simp [attempt.notGivenUp]
    · simp [← attempt.stored]
    · simp [← attempt.permanent]
  | @failed _ error _ _ attempted noted =>
    have attempt := attempted.protocol
    have mendable : error.prospect = .retryable := by
      cases prospect : error.prospect with
      | retryable => rfl
      | permanent => simpa [Outcome.ofError, prospect] using classified error rfl
    refine ⟨attempt.toCalls, attempt.ordered.trans (by simp), ?_, ?_, ?_⟩
    · simp [attempt.notGivenUp]
    · simp [← attempt.stored]
    · simp [← attempt.permanent, mendable]
  | @failedPermanently _ error _ _ _ _ _ attempted noted marked logged =>
    have attempt := attempted.protocol
    have permanent : error.prospect = .permanent := by
      cases prospect : error.prospect with
      | permanent => rfl
      | retryable => simpa [Outcome.ofError, prospect] using classified error rfl
    refine ⟨attempt.toCalls.andGivenUp rfl, ?_, ?_, ?_, ?_⟩
    · rw [calls_append, List.map_append]
      exact attempt.ordered.append (List.Sublist.refl [CallKind.set .failed])
    · simp [attempt.notGivenUp, eq_comm]
    · simp [← attempt.stored]
    · have hopeless := attempt.permanent
      simp [Hopeless] at hopeless ⊢
      simp [← hopeless, permanent]

/-- Which calls an execution makes of its services, in which order, when and with what;
and that its outcome follows from what came of them, but not from whether the store could
be told that the attachment is given up. -/
theorem execute_protocol (services : Services ρ) (settings : DownloadSettings)
    (task : DownloadTask) (scene : Scene ρ) :
    let (outcome, after) := execute services settings task scene
    ∃ seen, execute services.watched settings task (scene.watched []) =
        (outcome, after.watched seen) ∧
      Protocol settings task seen outcome ∧
      ∀ write, (execute (services.withFailedWrite write) settings task scene).1 = outcome := by
  obtain ⟨seen, same, executed⟩ := execute_watches services settings task scene
  refine ⟨seen, same [], executed.protocol ?_, fun write =>
    (execute_withFailedWrite services settings task write scene).1⟩
  intro error failed
  rcases ran : attempt services settings task scene with ⟨error' | _, ended⟩
  · have outcome := execute_outcome services settings task ran
    rw [outcome, Outcome.error?_ofError] at failed
    cases failed
    exact outcome
  · have outcome : (execute services settings task scene).1 = .succeeded := by
      unfold execute
      rw [bind_apply, ran]
      rfl
    rw [outcome] at failed
    cases failed

end DownloadJob

end AttachmentFetch
