import AttachmentFetch.Download.Transfer
import AttachmentFetch.Proofs.Backend
import AttachmentFetch.Proofs.Disk.Directory
import AttachmentFetch.Proofs.Http.Exchange

/-! What a download leaves in its file. A download that succeeds has met a
complete response, and the file holds the blob that this response carries, which is
within the limit; any other download touches nothing but the file. -/
namespace AttachmentFetch.Transfer

/-- Whether a response carries a blob: as its body, or in an envelope. -/
def Carries (format : BodyFormat) (response : Http.Response) (blob : Bytes) : Prop :=
  match format with
  | .raw => response.chunks.flatten = blob
  | .jsonEnvelope => ∃ result,
      Json.readAll responseShape.read response.chunks.flatten = .ok result ∧
        Text.Base64.decode (Text.Utf8.encode result) = .ok blob

theorem endingError?_eq_none {ending : Http.Ending} (h : endingError? ending = none) :
    ending = .complete := by
  cases ending <;> first | rfl | cases h

section Append
variable {path : String} {file : Place} {limit : UInt64} {ending : Http.Ending}

theorem appendChunks_keeps {total : Nat} (chunks : List Bytes) :
    ∀ scene : Scene ρ, file = scene.disk.target path →
      Scene.WritesFiles [path] scene
        ((appendChunks file limit ending total chunks).on scene).2 := by
  induction chunks generalizing total with
  | nil =>
    intro scene _
    unfold appendChunks
    split <;> exact Std.Refl.refl _
  | cons chunk rest ih =>
    intro scene here
    unfold appendChunks
    dsimp only
    split
    · exact Std.Refl.refl _
    · have touches := Disk.append_touches here chunk
      refine Step.Keeps.bind_at ?_ fun _ middle appending => ih middle ?_
      · rw [Step.on_mapError]
        exact ⟨rfl, touches⟩
      · obtain ⟨disk, appended, rfl⟩ := Step.onDisk_ok (Step.mapError_ok appending)
        rw [appended] at touches
        exact here.trans (touches.target path).symm

theorem appendChunks_ok {total : Nat} {chunks : List Bytes} {scene after : Scene ρ}
    {content : Bytes} (held : scene.disk.file? file = some content)
    (counted : total = content.length) (within : total ≤ limit.toNat)
    (h : (appendChunks file limit ending total chunks).on scene = (.ok (), after)) :
    ending = .complete ∧ (content ++ chunks.flatten).length ≤ limit.toNat ∧
      after.disk.file? file = some (content ++ chunks.flatten) := by
  induction chunks generalizing total content scene with
  | nil =>
    unfold appendChunks at h
    split at h
    · cases h
    next complete =>
      cases h
      rw [List.flatten_nil, List.append_nil]
      exact ⟨endingError?_eq_none complete, counted ▸ within, held⟩
  | cons chunk rest ih =>
    unfold appendChunks at h
    dsimp only at h
    split at h
    · cases h
    next fits =>
      obtain ⟨_, middle, appending, h⟩ := Step.bind_ok h
      obtain ⟨disk, appended, rfl⟩ := Step.onDisk_ok (Step.mapError_ok appending)
      have held' := Disk.append_ok held appended
      have counted' : total + chunk.length = (content ++ chunk).length := by
        rw [counted, List.length_append]
      simpa using ih held' counted' (Nat.not_lt.1 fits) h

end Append

theorem collect_ok {limit : UInt64} {most : Nat} {ending : Http.Ending} {body whole : Bytes}
    {chunks : List Bytes} (h : collect limit most ending body chunks = .ok whole) :
    ending = .complete ∧ whole = body ++ chunks.flatten := by
  induction chunks generalizing body with
  | nil =>
    unfold collect at h
    split at h
    · cases h
    next complete =>
      cases h
      exact ⟨endingError?_eq_none complete, by simp⟩
  | cons chunk rest ih =>
    unfold collect at h
    split at h
    · cases h
    · simpa using ih h

section Write
variable {response : Http.Response} {destination : String} {limit : UInt64}

theorem writeRaw_keeps (response : Http.Response) (destination : String) (limit : UInt64) :
    Step.Keeps (Scene.WritesFiles [destination] : Scene ρ → Scene ρ → Prop)
      (writeRaw response destination limit) := by
  intro scene
  refine Step.Keeps.bind_at ?_ fun file middle creating => ?_
  · exact (Scene.WritesFiles.onDisk (Disk.create_keeps destination)).mapError _ scene
  obtain ⟨disk, created, rfl⟩ := Step.onDisk_ok (Step.mapError_ok creating)
  obtain ⟨here, -, touches⟩ := Disk.create_ok created
  apply Step.Keeps.bind_at (appendChunks_keeps _ _ (here.trans (touches.target _).symm))
  intro _ last _
  refine (Scene.WritesFiles.onDisk fun disk => ?_).mapError _ last
  rw [Disk.sync_on]
  exact Disk.touchesOnly_started disk _

theorem writeRaw_ok {scene after : Scene ρ}
    (h : (writeRaw response destination limit).on scene = (.ok (), after)) :
    response.ending = .complete ∧ response.chunks.flatten.length ≤ limit.toNat ∧
      after.disk.file? (scene.disk.target destination) = some response.chunks.flatten := by
  obtain ⟨file, _, creating, h⟩ := Step.bind_ok h
  obtain ⟨disk₁, created, rfl⟩ := Step.onDisk_ok (Step.mapError_ok creating)
  obtain ⟨rfl, empty, -⟩ := Disk.create_ok created
  obtain ⟨_, filled, appended, h⟩ := Step.bind_ok h
  obtain ⟨disk₂, synced, rfl⟩ := Step.onDisk_ok (Step.mapError_ok h)
  obtain rfl := Disk.sync_ok synced
  obtain ⟨complete, within, held⟩ :=
    appendChunks_ok empty List.length_nil.symm (Nat.zero_le _) appended
  exact ⟨complete, within, held⟩

theorem writeEnvelope_keeps (response : Http.Response) (destination : String) (limit : UInt64) :
    Step.Keeps (Scene.WritesFiles [destination] : Scene ρ → Scene ρ → Prop)
      (writeEnvelope response destination limit) :=
  .bind (fun _ => Std.Refl.refl _) fun blob =>
    (Scene.WritesFiles.onDisk (Disk.write_keeps destination blob)).mapError _

theorem decodeEnvelope_ok {body blob : Bytes} (h : decodeEnvelope body = .ok blob) :
    ∃ result, Json.readAll responseShape.read body = .ok result ∧
      Text.Base64.decode (Text.Utf8.encode result) = .ok blob := by
  unfold decodeEnvelope at h
  split at h
  · cases h
  next result read =>
    split at h
    · cases h
    next decoded =>
      cases h
      exact ⟨result, read, decoded⟩

theorem readEnvelope_ok {blob : Bytes}
    (h : (do
      let body ← collect limit (longestBody .jsonEnvelope limit) response.ending [] response.chunks
      let blob ← decodeEnvelope body
      if limit.toNat < blob.length then throw (.sizeExceeded limit)
      return blob : Except TransferError Bytes) = .ok blob) :
    response.ending = .complete ∧ Carries .jsonEnvelope response blob ∧
      blob.length ≤ limit.toNat := by
  cases collected : collect limit (longestBody .jsonEnvelope limit) response.ending []
      response.chunks with
  | error =>
    rw [collected] at h
    cases h
  | ok body =>
    obtain ⟨complete, rfl⟩ := collect_ok collected
    cases decoded : decodeEnvelope ([] ++ response.chunks.flatten) with
    | error =>
      simp only [collected, bind, Except.bind, decoded] at h
      cases h
    | ok blob' =>
      simp only [collected, bind, Except.bind, decoded] at h
      split at h
      · cases h
      next within =>
        cases h
        exact ⟨complete, decodeEnvelope_ok decoded, Nat.not_lt.1 within⟩

theorem writeEnvelope_ok {scene after : Scene ρ}
    (h : (writeEnvelope response destination limit).on scene = (.ok (), after)) :
    ∃ blob, response.ending = .complete ∧ Carries .jsonEnvelope response blob ∧
      blob.length ≤ limit.toNat ∧
      after.disk.file? (scene.disk.target destination) = some blob := by
  obtain ⟨blob, middle, reading, h⟩ := Step.bind_ok h
  rw [Step.on_reads] at reading
  obtain ⟨read, rfl⟩ := Prod.mk.inj reading
  obtain ⟨disk, wrote, rfl⟩ := Step.onDisk_ok (Step.mapError_ok h)
  obtain ⟨complete, carried, within⟩ := readEnvelope_ok read
  exact ⟨blob, complete, carried, within, Disk.write_ok wrote⟩

end Write

section Download
variable {destination url : String} {limit : UInt64} {options : TransferOptions}

theorem receive_keeps (response : Http.Response) (destination : String) (limit : UInt64)
    (format : BodyFormat) :
    Step.Keeps (Scene.WritesFiles [destination] : Scene ρ → Scene ρ → Prop)
      (receive response destination limit format) := by
  unfold receive
  dsimp only
  split
  · exact .throw_bind _ _
  · split
    · exact .throw_bind _ _
    · cases format with
      | raw => exact writeRaw_keeps response destination limit
      | jsonEnvelope => exact writeEnvelope_keeps response destination limit

theorem receive_ok {response : Http.Response} {format : BodyFormat} {scene after : Scene ρ}
    (h : (receive response destination limit format).on scene = (.ok (), after)) :
    ∃ blob, Http.isSuccess response.status = true ∧ response.ending = .complete ∧
      Carries format response blob ∧ blob.length ≤ limit.toNat ∧
      after.disk.file? (scene.disk.target destination) = some blob := by
  have success : Http.isSuccess response.status = true := by
    cases success : Http.isSuccess response.status with
    | true => rfl
    | false =>
      simp only [receive, success, Bool.not_false, if_true] at h
      cases h
  simp only [receive, success, Bool.not_true, Bool.false_eq_true, if_false] at h
  split at h
  · cases h
  · cases format with
    | raw =>
      obtain ⟨complete, within, filled⟩ := writeRaw_ok h
      exact ⟨_, success, complete, rfl, within, filled⟩
    | jsonEnvelope =>
      obtain ⟨blob, complete, carried, within, filled⟩ := writeEnvelope_ok h
      exact ⟨blob, success, complete, carried, within, filled⟩

theorem request_on (url : String) (timeout : Option Duration) (scene : Scene Backend) :
    (request url timeout).on scene =
      (((Http.get timeout url).on scene.rest.network).1.mapError fun error =>
          .transport error.message,
        { scene with rest := { scene.rest with
            network := ((Http.get timeout url).on scene.rest.network).2 } }) := by
  rw [request, Step.on_mapError, Step.on_onRest, Step.on_within]

theorem request_keeps (paths : List String) (url : String) (timeout : Option Duration) :
    Step.Keeps (Scene.WritesOnly paths) (request url timeout) := by
  intro scene
  rw [request, Step.on_mapError, Step.on_onRest]
  exact ⟨rfl, Std.Refl.refl scene.disk⟩

theorem request_ok {timeout : Option Duration} {scene after : Scene Backend}
    {response : Http.Response} (h : (request url timeout).on scene = (.ok response, after)) :
    (Http.get timeout url).on scene.rest.network = (.ok response, after.rest.network) ∧
      after.disk = scene.disk := by
  have asked := Step.mapError_ok h
  rw [Step.on_onRest, Step.on_within] at asked
  obtain ⟨result, rfl⟩ := Prod.mk.inj asked
  exact ⟨Prod.ext result rfl, rfl⟩

theorem download_keeps (destination url : String) (limit : UInt64) (options : TransferOptions) :
    Step.Keeps (Scene.WritesOnly [destination]) (download destination url limit options) :=
  .bind (request_keeps _ url _) fun response scene =>
    (receive_keeps response destination limit options.format scene).writesOnly

section Disks
variable {R : Disk → Disk → Prop} [Std.Refl R] [Trans R R R]
  (appends : ∀ place bytes, Step.Keeps R (Disk.append place bytes))
include appends

theorem appendChunks_disks (file : Place) (ending : Http.Ending) (chunks : List Bytes) :
    ∀ total, Step.Keeps (Scene.Disks R : Scene ρ → Scene ρ → Prop)
      (appendChunks file limit ending total chunks) := by
  induction chunks with
  | nil =>
    intro total scene
    unfold appendChunks
    split <;> exact Std.Refl.refl scene.disk
  | cons chunk rest ih =>
    intro total
    unfold appendChunks
    dsimp only
    split
    · exact fun scene => Std.Refl.refl scene.disk
    · exact .bind (.mapError _ (.onDisk (appends file chunk))) fun _ => ih _

variable (creates : ∀ path, Step.Keeps R (Disk.create path)) (syncs : ∀ disk, R disk disk.started)
include creates syncs

theorem receive_disks (response : Http.Response) (destination : String) (format : BodyFormat) :
    Step.Keeps (Scene.Disks R : Scene ρ → Scene ρ → Prop)
      (receive response destination limit format) := by
  unfold receive
  dsimp only
  split
  · exact .throw_bind _ _
  split
  · exact .throw_bind _ _
  split
  · refine .bind (.mapError _ (.onDisk (creates destination))) fun file =>
      .bind (appendChunks_disks appends file response.ending response.chunks 0) fun _ =>
        .mapError _ (.onDisk fun disk => ?_)
    rw [Disk.sync_on]
    exact syncs disk
  · refine .bind (fun scene => Std.Refl.refl scene.disk) fun blob => .mapError _ (.onDisk ?_)
    exact .bind (creates destination) fun place => appends place blob

theorem download_disks (destination url : String) (options : TransferOptions) :
    Step.Keeps (Scene.Disks R) (download destination url limit options) :=
  .bind (.mapError _ fun scene => Std.Refl.refl scene.disk) fun response =>
    receive_disks appends creates syncs response destination options.format

end Disks

theorem download_ok {scene after : Scene Backend}
    (h : (download destination url limit options).on scene = (.ok (), after)) :
    ∃ response blob, Http.Met scene.rest.network after.rest.network response ∧
      Http.isSuccess response.status = true ∧ response.ending = .complete ∧
      Carries options.format response blob ∧ blob.length ≤ limit.toNat ∧
      after.disk.file? (after.disk.target destination) = some blob := by
  obtain ⟨response, middle, requested, h⟩ := Step.bind_ok h
  obtain ⟨got, disk⟩ := request_ok requested
  obtain ⟨blob, success, complete, carried, within, filled⟩ := receive_ok h
  have writes := (receive_keeps response destination limit options.format).related h
  rw [← writes.rest] at got
  refine ⟨response, blob, Http.get_ok got success complete, success, complete, carried, within, ?_⟩
  rw [writes.disk.target]
  exact filled

end Download

end AttachmentFetch.Transfer
