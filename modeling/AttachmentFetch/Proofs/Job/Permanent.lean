import AttachmentFetch.Client
import AttachmentFetch.Proofs.Download.Reception
import AttachmentFetch.Proofs.Envelope.Verdict
import AttachmentFetch.Proofs.Job.Protocol
import AttachmentFetch.Proofs.Job.Success
import AttachmentFetch.Proofs.Text.Canonical

/-! Which failures no other attempt can mend: those of an attachment that is not there, of a
server that answers with something else, and of a blob with no room for what an envelope
holds. Each is found where it can arise; all other failures are retryable. -/
namespace AttachmentFetch

namespace Transfer

/-- The body of a file server that has a blob for us, spelled as it has to be. -/
def IsEnvelope (body : Bytes) : Prop :=
  ∃ result blob, Json.readAll responseShape.read body = .ok result ∧
    Text.Utf8.encode result = Text.Base64.encode blob

/-- A response of success that is whole, and no longer than an envelope may be. -/
structure Received (response : Http.Response) (limit : UInt64) : Prop where
  success : Http.isSuccess response.status = true
  declared : ∀ length, response.declared = some length →
    length ≤ longestBody .jsonEnvelope limit
  complete : response.ending = .complete
  within : response.chunks.flatten.length ≤ longestBody .jsonEnvelope limit

section Collect
variable {limit : UInt64} {most : Nat} {ending : Http.Ending} {body whole : Bytes}
  {chunks : List Bytes} {error : TransferError}

theorem collect_length (h : collect limit most ending body chunks = .ok whole)
    (short : body.length ≤ most) : whole.length ≤ most := by
  induction chunks generalizing body with
  | nil =>
    unfold collect at h
    split at h <;> cases h
    exact short
  | cons chunk rest ih =>
    unfold collect at h
    split at h
    · cases h
    next fits => exact ih h (by rw [List.length_append]; omega)

theorem collect_error (h : collect limit most ending body chunks = .error error) :
    error.prospect = .retryable := by
  induction chunks generalizing body with
  | nil =>
    unfold collect at h
    split at h
    next broken =>
      cases h
      cases ending <;> cases broken <;> rfl
    next => cases h
  | cons chunk rest ih =>
    unfold collect at h
    split at h
    · cases h
      rfl
    · exact ih h

theorem collect_iff : collect limit most ending [] chunks = .ok whole ↔
    ending = .complete ∧ chunks.flatten.length ≤ most ∧ whole = chunks.flatten := by
  constructor
  · intro h
    obtain ⟨complete, rfl⟩ := collect_ok h
    exact ⟨complete, collect_length h (Nat.zero_le _), rfl⟩
  · rintro ⟨rfl, within, rfl⟩
    exact collect_within limit (by simpa using within)

end Collect

section Decode
variable {body : Bytes}

theorem decodeEnvelope_error {error : TransferError} (h : decodeEnvelope body = .error error) :
    error.prospect = .permanent := by
  unfold decodeEnvelope at h
  split at h
  · cases h
    rfl
  · split at h <;> cases h
    rfl

theorem exists_decodeEnvelope : (∃ blob, decodeEnvelope body = .ok blob) ↔ IsEnvelope body := by
  constructor
  · rintro ⟨blob, decoded⟩
    obtain ⟨result, read, spelled⟩ := decodeEnvelope_ok decoded
    exact ⟨result, blob, read, Text.Base64.decode_iff.1 spelled⟩
  · rintro ⟨result, blob, read, spelled⟩
    refine ⟨blob, ?_⟩
    simp only [decodeEnvelope, read, Text.Base64.decode_iff.2 spelled]

end Decode

section Receive
variable {response : Http.Response} {destination url : String} {limit : UInt64}

theorem readEnvelope_permanent :
    (∃ error, (do
      let body ← collect limit (longestBody .jsonEnvelope limit) response.ending [] response.chunks
      let blob ← decodeEnvelope body
      if limit.toNat < blob.length then throw (.sizeExceeded limit)
      return blob : Except TransferError Bytes) = .error error ∧ error.prospect = .permanent) ↔
      response.ending = .complete ∧
        response.chunks.flatten.length ≤ longestBody .jsonEnvelope limit ∧
        ¬IsEnvelope response.chunks.flatten := by
  simp only [bind, Except.bind]
  cases collected : collect limit (longestBody .jsonEnvelope limit) response.ending []
      response.chunks with
  | error error =>
    have retryable := collect_error collected
    constructor
    · rintro ⟨_, ⟨⟩, permanent⟩
      cases retryable.symm.trans permanent
    · rintro ⟨complete, within, -⟩
      cases collected.symm.trans (collect_iff.2 ⟨complete, within, rfl⟩)
  | ok body =>
    obtain ⟨complete, within, rfl⟩ := collect_iff.1 collected
    rw [← exists_decodeEnvelope, and_iff_right complete, and_iff_right within]
    cases decoded : decodeEnvelope response.chunks.flatten with
    | error error =>
      refine iff_of_true ⟨error, ?_, decodeEnvelope_error decoded⟩ nofun
      simp only [decoded]
    | ok blob =>
      refine iff_of_false ?_ fun none => none ⟨blob, rfl⟩
      simp only [decoded]
      split
      · rintro ⟨_, ⟨⟩, ⟨⟩⟩
      · rintro ⟨_, ⟨⟩, _⟩

theorem io_retryable {call : Step (Scene ρ) IoError α} {scene : Scene ρ} :
    ¬Step.Fails (·.prospect = .permanent) (call.mapError TransferError.io) scene :=
  Step.not_fails_mapError nofun

theorem writeEnvelope_permanent {scene : Scene ρ} :
    Step.Fails (·.prospect = .permanent) (writeEnvelope response destination limit) scene ↔
      response.ending = .complete ∧
        response.chunks.flatten.length ≤ longestBody .jsonEnvelope limit ∧
        ¬IsEnvelope response.chunks.flatten := by
  rw [writeEnvelope, Step.fails_bind, Step.fails_reads, readEnvelope_permanent]
  refine or_iff_left ?_
  rintro ⟨blob, middle, -, failed⟩
  exact io_retryable failed

theorem appendChunks_retryable {file : Place} {ending : Http.Ending} {total : Nat}
    (chunks : List Bytes) {scene : Scene ρ} :
    ¬Step.Fails (·.prospect = .permanent) (appendChunks file limit ending total chunks) scene := by
  induction chunks generalizing total scene with
  | nil =>
    unfold appendChunks
    split
    next broken =>
      rintro ⟨_, ⟨⟩, permanent⟩
      cases ending <;> cases broken <;> cases permanent
    next => exact Step.not_fails_pure
  | cons chunk rest ih =>
    unfold appendChunks
    dsimp only
    split
    · rintro ⟨_, ⟨⟩, ⟨⟩⟩
    · rw [Step.fails_bind]
      rintro (failed | ⟨_, middle, -, failed⟩)
      · exact io_retryable failed
      · exact ih failed

theorem writeRaw_retryable {scene : Scene ρ} :
    ¬Step.Fails (·.prospect = .permanent) (writeRaw response destination limit) scene := by
  rw [writeRaw, Step.fails_bind]
  rintro (failed | ⟨file, middle, -, failed⟩)
  · exact io_retryable failed
  rw [Step.fails_bind] at failed
  rcases failed with failed | ⟨_, last, -, failed⟩
  · exact appendChunks_retryable response.chunks failed
  · exact io_retryable failed

theorem receive_permanent {format : BodyFormat} {scene : Scene ρ} :
    Step.Fails (·.prospect = .permanent) (receive response destination limit format) scene ↔
      format = .jsonEnvelope ∧ Received response limit ∧
        ¬IsEnvelope response.chunks.flatten := by
  unfold receive
  dsimp only
  split
  next unsuccessful =>
    refine iff_of_false ?_ fun ⟨_, received, _⟩ => ?_
    · rintro ⟨_, ⟨⟩, ⟨⟩⟩
    · simp [received.success] at unsuccessful
  next success =>
    split
    next tooLong =>
      refine iff_of_false ?_ fun ⟨isEnvelope, received, _⟩ => ?_
      · rintro ⟨_, ⟨⟩, ⟨⟩⟩
      · obtain ⟨length, declared, long⟩ := (Option.any_eq_true _ _).1 tooLong
        have short := received.declared length declared
        rw [isEnvelope, decide_eq_true_iff] at long
        omega
    next short =>
      cases format with
      | raw => exact iff_of_false writeRaw_retryable nofun
      | jsonEnvelope =>
        have declared : ∀ length, response.declared = some length →
            length ≤ longestBody .jsonEnvelope limit := by
          rintro length declared
          rw [declared] at short
          simpa using short
        refine writeEnvelope_permanent.trans ⟨?_, ?_⟩
        · rintro ⟨complete, within, other⟩
          exact ⟨rfl, ⟨by simpa using success, declared, complete, within⟩, other⟩
        · rintro ⟨-, received, other⟩
          exact ⟨received.complete, received.within, other⟩

theorem download_permanent {options : TransferOptions} {scene : Scene Backend} :
    Step.Fails (·.prospect = .permanent) (download destination url limit options) scene ↔
      options.format = .jsonEnvelope ∧ ∃ response network,
        (Http.get options.timeout url).on scene.rest.network = (.ok response, network) ∧
          Received response limit ∧ ¬IsEnvelope response.chunks.flatten := by
  have asked : ¬Step.Fails (·.prospect = .permanent) (request url options.timeout) scene :=
    Step.not_fails_mapError nofun
  rw [download, Step.fails_bind, or_iff_right asked]
  constructor
  · rintro ⟨response, middle, requested, failed⟩
    obtain ⟨format, received, other⟩ := receive_permanent.1 failed
    exact ⟨format, response, _, (request_ok requested).1, received, other⟩
  · rintro ⟨format, response, network, got, received, other⟩
    have requested := request_on url options.timeout scene
    rw [got] at requested
    exact ⟨response, _, requested, receive_permanent.2 ⟨format, received, other⟩⟩

end Receive
end Transfer

namespace Envelope
variable {envelope key digest : Bytes} {expected : UInt64}

theorem openChecked_permanent :
    (∃ error, openChecked envelope expected key digest = .error error ∧
      error.prospect = .permanent) ↔ envelope.length < nonceLength + tagLength := by
  constructor
  · rintro ⟨error, failed, permanent⟩
    cases openChecked_iff.1 failed with
    | short short => exact short
    | foreign | keyless | forged | missized => cases permanent
  · intro short
    exact ⟨_, openChecked_short short, rfl⟩

theorem openFile_permanent {source : String} {scene : Scene ρ} :
    Step.Fails (·.prospect = .permanent) (openFile source expected key digest) scene ↔
      ∃ blob disk, (Disk.read source).on scene.disk = (.ok blob, disk) ∧
        blob.length < nonceLength + tagLength := by
  have read : ¬Step.Fails (·.prospect = .permanent)
      ((Scene.onDisk (Disk.read source)).mapError OpenError.io) scene :=
    Step.not_fails_mapError nofun
  rw [openFile, Step.fails_bind, or_iff_right read]
  constructor
  · rintro ⟨blob, middle, reading, failed⟩
    obtain ⟨disk, held, rfl⟩ := Step.onDisk_ok (Step.mapError_ok reading)
    rw [Step.fails_bind] at failed
    rcases failed with failed | ⟨_, _, -, failed⟩
    · exact ⟨blob, disk, held, openChecked_permanent.1 (Step.fails_reads.1 failed)⟩
    · exact absurd failed Step.not_fails_pure
  · rintro ⟨blob, disk, reading, short⟩
    refine ⟨blob, _, Step.mapError_of_ok _ (Step.onDisk_of_ok reading), ?_⟩
    rw [Step.fails_bind, Step.fails_reads]
    exact .inl (openChecked_permanent.2 short)

end Envelope

theorem ScratchFile.fails_during (file : ScratchFile) {kind : ε → Prop}
    {body : Step (Scene ρ) ε α} {scene : Scene ρ} :
    Step.Fails kind (file.during body) scene ↔ Step.Fails kind body scene := by
  rcases ran : body.on scene with ⟨error | value, ended⟩
  · have failed : ((file.during body).on scene).1 = .error error := by
      rw [during, Step.bind_of_ok (Step.on_outcome _ scene), ran]
      rfl
    unfold Step.Fails
    rw [failed, ran]
  · obtain ⟨after, ended, -⟩ := file.during_of_ok ran
    unfold Step.Fails
    rw [ended, ran]

namespace DownloadJob

section Attempt
variable {services : Services ρ} {settings : DownloadSettings} {task : DownloadTask}
  {pointer : Pointer} {path : String} {scene : Scene ρ}

theorem openContent_permanent :
    Step.Fails (·.prospect = .permanent) (openContent services pointer path) scene ↔
      ∃ key digest, pointer.OpensWith key digest ∧
        Step.Fails (·.prospect = .permanent)
          (services.openSealed path pointer.size key digest) scene := by
  cases isSealed : pointer.isSealed with
  | false =>
    constructor
    · rintro ⟨error, failed, permanent⟩
      have retryable := (openContent_plain isSealed (Prod.ext failed rfl)).2 error rfl
      cases retryable.symm.trans permanent
    · rintro ⟨key, digest, opens, -⟩
      cases isSealed.symm.trans (Pointer.opensWith_iff.1 opens).1
  | true =>
    simp only [openContent, isSealed, if_true]
    rw [Step.fails_bind]
    constructor
    · rintro (failed | ⟨key, middle, keyed, failed⟩)
      · obtain ⟨error, keyless, permanent⟩ := Step.fails_reads.1 failed
        cases key : pointer.keyBytes with
        | ok => rw [key] at keyless; cases keyless
        | error error' =>
          rw [key] at keyless
          cases keyless
          cases (Pointer.keyBytes_retryable key).symm.trans permanent
      · rw [Step.on_reads] at keyed
        obtain ⟨keyed, rfl⟩ := Prod.mk.inj keyed
        cases key_eq : pointer.keyBytes with
        | error => rw [key_eq] at keyed; cases keyed
        | ok key' =>
          rw [key_eq] at keyed
          cases keyed
          exact ⟨key, _, Pointer.opensWith_iff.2 ⟨isSealed, key_eq, rfl⟩,
            Step.fails_mapError.1 failed⟩
    · rintro ⟨key, digest, opens, failed⟩
      obtain ⟨-, keyed, rfl⟩ := Pointer.opensWith_iff.1 opens
      refine .inr ⟨key, scene, ?_, Step.fails_mapError.2 failed⟩
      rw [Step.on_reads, keyed]
      rfl

/-- The pointer has been found, the store has taken note, and a scratch file has been made. -/
def Ready (services : Services ρ) (settings : DownloadSettings) (task : DownloadTask)
    (scene : Scene ρ) (pointer : Pointer) (path : String) (ready : Scene ρ) : Prop :=
  ∃ middle marked,
    (services.findPointer task.attachment).on scene = (.ok (some pointer), middle) ∧
    (services.setState .started task.attachment task.message).on middle = (.ok (), marked) ∧
    (Scene.onDisk (ScratchFile.makeIn settings.cacheDirectory)).on marked = (.ok ⟨path⟩, ready)

variable (services settings task) in
theorem attempt_permanent (scene : Scene ρ) :
    Step.Fails (·.prospect = .permanent) (attempt services settings task) scene ↔
      (∃ after, (services.findPointer task.attachment).on scene = (.ok none, after)) ∨
      ∃ pointer path ready, Ready services settings task scene pointer path ready ∧
        (Step.Fails (·.prospect = .permanent)
            (services.download path pointer.url settings.maxBytes settings.options) ready ∨
          ∃ fetched, (services.download path pointer.url settings.maxBytes settings.options).on
              ready = (.ok (), fetched) ∧
            Step.Fails (·.prospect = .permanent) (openContent services pointer path) fetched) := by
  have retryable {α : Type} {step : Step (Scene ρ) ErrorChain α} {state : Scene ρ} :
      ¬Step.Fails (·.prospect = .permanent) (step.mapError AttemptError.storage) state :=
    Step.not_fails_mapError nofun
  have retryable' {α : Type} {step : Step (Scene ρ) IoError α} {state : Scene ρ} :
      ¬Step.Fails (·.prospect = .permanent) (step.mapError AttemptError.scratchFile) state :=
    Step.not_fails_mapError nofun
  rw [attempt, Step.fails_bind, or_iff_right retryable]
  constructor
  · rintro ⟨_ | pointer, middle, finding, failed⟩
    · exact .inl ⟨middle, Step.mapError_ok finding⟩
    dsimp only at failed
    rw [Step.fails_bind, or_iff_right retryable] at failed
    obtain ⟨_, marked, marking, failed⟩ := failed
    rw [Step.fails_bind, or_iff_right retryable'] at failed
    obtain ⟨file, ready, making, failed⟩ := failed
    rw [ScratchFile.fails_during, Step.fails_bind, Step.fails_mapError] at failed
    refine .inr ⟨pointer, file.path, ready, ⟨middle, marked, Step.mapError_ok finding,
      Step.mapError_ok marking, Step.mapError_ok making⟩, failed.imp_right ?_⟩
    rintro ⟨_, fetched, fetching, failed⟩
    rw [Step.fails_bind] at failed
    refine ⟨fetched, Step.mapError_ok fetching, failed.resolve_right ?_⟩
    rintro ⟨_, _, -, failed⟩
    exact retryable failed
  · rintro (⟨after, found⟩ | ⟨pointer, path, ready, ⟨middle, marked, finding, marking, making⟩,
      failed⟩)
    · exact ⟨none, after, Step.mapError_of_ok _ found, _, rfl, rfl⟩
    refine ⟨some pointer, middle, Step.mapError_of_ok _ finding, ?_⟩
    refine Step.fails_bind.2 (.inr ⟨(), marked, Step.mapError_of_ok _ marking, ?_⟩)
    refine Step.fails_bind.2 (.inr ⟨⟨path⟩, ready, Step.mapError_of_ok _ making, ?_⟩)
    rw [ScratchFile.fails_during, Step.fails_bind, Step.fails_mapError]
    refine failed.imp_right ?_
    rintro ⟨fetched, fetching, failed⟩
    exact ⟨(), fetched, Step.mapError_of_ok _ fetching, Step.fails_bind.2 (.inl failed)⟩

variable (services settings task) in
theorem execute_permanent (scene : Scene ρ) :
    (∃ error, (execute services settings task scene).1 = .failedPermanently error) ↔
      Step.Fails (·.prospect = .permanent) (attempt services settings task) scene := by
  rcases ran : (attempt services settings task).on scene with ⟨error | _, ended⟩
  · rw [execute_outcome services settings task ran]
    unfold Step.Fails Outcome.ofError
    rw [ran]
    cases prospect : error.prospect <;> simp [prospect]
  · obtain ⟨after, executed, -⟩ := execute_of_ok ran
    rw [executed]
    exact iff_of_false nofun (Step.not_fails_of_ok (congrArg Prod.fst ran))

end Attempt

theorem findPointer_none_iff {attachment : AttachmentId} {scene : Scene Backend} :
    (∃ after, (Repository.findPointer attachment).on scene = (.ok none, after)) ↔
      Backend.Spared scene ∧ ∃ rows, scene.rest.database.attachments = some rows ∧
        ∀ row ∈ rows, row.id ≠ attachment := by
  constructor
  · rintro ⟨after, finding⟩
    obtain ⟨row, middle, found, finding⟩ := Step.bind_ok (Step.mapError_ok finding)
    cases row with
    | some row =>
      obtain ⟨_, _, -, finding⟩ := Step.bind_ok finding
      cases finding
    | none =>
      refine ⟨Backend.spared_of_ok found, ?_⟩
      have missing := (Repository.findRow_ok found).1
      rw [Database.findAttachment, Database.attachmentRows] at missing
      split at missing
      next rows tables =>
        exact ⟨rows, tables, by simpa using Except.ok.inj missing⟩
      next => cases missing
  · rintro ⟨spared, rows, tables, new⟩
    have missing : rows.find? (·.id = attachment) = none := by simpa using new
    have found := Backend.query_of_spared spared fun db =>
      ((db.findAttachment attachment).mapError DatabaseError.chain).map (·, db)
    rw [Database.findAttachment, Database.attachmentRows, tables] at found
    have found : ((Repository.findRow attachment).on scene).1 = .ok none :=
      found.trans (congrArg Except.ok missing)
    exact ⟨_, Step.mapError_of_ok _ (Step.bind_of_ok (Prod.ext found rfl))⟩

/-- When an execution says that no other attempt can help: if the look-up shows that there is
no such attachment; or if the store has taken note, a scratch file has been made, and then
the server has sent an envelope, whole and not too long, which is none or whose blob is not
spelled in canonical base64, or what was downloaded for a sealed attachment is shorter than
nonce and tag. Whatever else goes wrong is worth another try; where the body of a response
is the blob itself, so is all that can go wrong with a download. -/
theorem execute_hopeless_iff (repository : Repository) (settings : DownloadSettings)
    (task : DownloadTask) (scene : Scene Backend) :
    ((∃ error, (execute repository.services settings task scene).1 = .failedPermanently error) ↔
      (Backend.Spared scene ∧ ∃ rows, scene.rest.database.attachments = some rows ∧
        ∀ row ∈ rows, row.id ≠ task.attachment) ∨
      ∃ pointer path ready,
        Ready repository.services settings task scene pointer path ready ∧
        ((settings.options.format = .jsonEnvelope ∧ ∃ response network,
            (Http.get settings.options.timeout pointer.url).on ready.rest.network =
              (.ok response, network) ∧
            Transfer.Received response settings.maxBytes ∧
            ¬Transfer.IsEnvelope response.chunks.flatten) ∨
          ∃ key digest fetched blob read, pointer.OpensWith key digest ∧
            (Transfer.download path pointer.url settings.maxBytes settings.options).on ready =
              (.ok (), fetched) ∧
            (Disk.read path).on fetched.disk = (.ok blob, read) ∧ blob.length < 28)) ∧
    (settings.options.format = .raw → ∀ path url ready,
      ¬Step.Fails (·.prospect = .permanent)
        (Transfer.download path url settings.maxBytes settings.options) ready) := by
  constructor
  · rw [execute_permanent, attempt_permanent]
    refine or_congr findPointer_none_iff (exists_congr fun pointer => exists_congr fun path =>
      exists_congr fun ready => and_congr_right fun _ => or_congr Transfer.download_permanent ?_)
    constructor
    · rintro ⟨fetched, fetching, failed⟩
      obtain ⟨key, digest, opens, failed⟩ := openContent_permanent.1 failed
      obtain ⟨blob, read, held, short⟩ := Envelope.openFile_permanent.1 failed
      exact ⟨key, digest, fetched, blob, read, opens, fetching, held, short⟩
    · rintro ⟨key, digest, fetched, blob, read, opens, fetching, held, short⟩
      exact ⟨fetched, fetching, openContent_permanent.2 ⟨key, digest, opens,
        Envelope.openFile_permanent.2 ⟨blob, read, held, short⟩⟩⟩
  · intro raw path url ready failed
    obtain ⟨format, -⟩ := Transfer.download_permanent.1 failed
    cases raw.symm.trans format

end DownloadJob
end AttachmentFetch
