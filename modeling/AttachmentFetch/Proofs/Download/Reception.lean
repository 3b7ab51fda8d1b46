import AttachmentFetch.Proofs.Disk.Room
import AttachmentFetch.Proofs.Download.Allowance
import AttachmentFetch.Proofs.Download.Transfer

/-! Receiving what is served intact. A blob within the limit arrives, in whichever
format, in however many pieces, and whether or not its length is announced. -/
namespace AttachmentFetch.Transfer

def bodyOf : BodyFormat → Bytes → Bytes
  | .raw, blob => blob
  | .jsonEnvelope, blob => compact blob

/-- The response is a complete one that carries the blob; a length that it announces is
that of its body. -/
structure Serves (format : BodyFormat) (response : Http.Response) (blob : Bytes) : Prop where
  success : Http.isSuccess response.status = true
  complete : response.ending = .complete
  body : response.chunks.flatten = bodyOf format blob
  declared : ∀ length, response.declared = some length → length = (bodyOf format blob).length

/-- The greatest length for which no product or sum of the limits stops short. -/
def longestBlob : Nat := 2 ^ 61

theorem length_bodyOf {format : BodyFormat} {limit : UInt64} {blob : Bytes}
    (within : blob.length ≤ limit.toNat) (short : blob.length ≤ longestBlob) :
    (bodyOf format blob).length ≤ longestBody format limit := by
  cases format with
  | raw => exact within
  | jsonEnvelope => exact (length_compact_le_iff within).2 (short.trans (by decide))

section Receive
variable {response : Http.Response} {limit : UInt64} {format : BodyFormat} {scene : Scene ρ}
  {destination : String} {former blob : Bytes}

theorem appendChunks_within {file : Place} {chunks : List Bytes} (total : Nat) (scene : Scene ρ)
    (calm : scene.disk.faults = []) (held : scene.disk.file? file = some former)
    (within : total + chunks.flatten.length ≤ limit.toNat) :
    ∃ disk, (appendChunks file limit .complete total chunks).on scene =
        (.ok (), { scene with disk }) ∧
      Disk.SameShape scene.disk disk ∧ disk.file? file = some (former ++ chunks.flatten) := by
  induction chunks generalizing total former scene with
  | nil => exact ⟨scene.disk, rfl, .refl _, by simpa using held⟩
  | cons chunk rest ih =>
    rw [List.flatten_cons, List.length_append] at within
    have fits : ¬limit.toNat < total + chunk.length := by omega
    have appending := Disk.append_of_calm calm held chunk
    have shape := Disk.SameShape.refill (Disk.file?_eq_some.1 held) (former ++ chunk)
    have held' := Disk.append_ok held appending
    generalize scene.disk.put file (.file (former ++ chunk)) = filled at appending shape held'
    have appended := Step.mapError_of_ok TransferError.io (Step.onDisk_of_ok appending)
    obtain ⟨disk, ran, shape', whole⟩ := ih (total + chunk.length) { scene with disk := filled }
      (shape.faults.trans calm) held' (by omega)
    refine ⟨disk, ?_, shape.trans shape', ?_⟩
    · unfold appendChunks
      dsimp only
      rw [if_neg fits, Step.bind_of_ok appended]
      exact ran
    · simpa using whole

theorem writeRaw_within (complete : response.ending = .complete)
    (calm : scene.disk.faults = []) (found : scene.disk.content? destination = some former)
    (within : response.chunks.flatten.length ≤ limit.toNat) :
    ∃ disk, (writeRaw response destination limit).on scene = (.ok (), { scene with disk }) ∧
      Disk.Refilled destination response.chunks.flatten scene.disk disk := by
  have node := Disk.file?_eq_some.1 (Disk.content?_eq_some.1 found).2
  have creating := Disk.create_of_content calm found
  have emptied := Disk.SameShape.refill node []
  obtain ⟨-, empty, -⟩ := Disk.create_ok creating
  generalize scene.disk.put (scene.disk.target destination) (.file []) = created
    at creating emptied empty
  have opened := Step.mapError_of_ok TransferError.io (Step.onDisk_of_ok creating)
  have calm' := emptied.faults.trans calm
  obtain ⟨disk, appended, filled, held⟩ := appendChunks_within 0 { scene with disk := created }
    calm' empty (by rwa [Nat.zero_add])
  have syncing := Disk.sync_of_calm (filled.faults.trans calm') (scene.disk.target destination)
  refine ⟨disk, ?_, Disk.refilled_of_file (emptied.trans filled) found held⟩
  rw [writeRaw, complete, Step.bind_of_ok opened, Step.bind_of_ok appended]
  exact Step.mapError_of_ok TransferError.io (Step.onDisk_of_ok syncing)

theorem readEnvelope_within (serves : Serves .jsonEnvelope response blob)
    (within : blob.length ≤ limit.toNat) (short : blob.length ≤ longestBlob) :
    (do
      let body ← collect limit (longestBody .jsonEnvelope limit) response.ending [] response.chunks
      let blob ← decodeEnvelope body
      if limit.toNat < blob.length then throw (.sizeExceeded limit)
      return blob : Except TransferError Bytes) = .ok blob := by
  have fits : ([] : Bytes).length + response.chunks.flatten.length ≤
      longestBody .jsonEnvelope limit := by
    rw [serves.body, List.length_nil, Nat.zero_add]
    exact length_bodyOf within short
  have collected := collect_within limit fits
  have decoded : decodeEnvelope ([] ++ response.chunks.flatten) = .ok blob := by
    rw [serves.body]
    exact decodeEnvelope_compact blob
  rw [serves.complete, collected]
  simp only [bind, Except.bind, decoded, Nat.not_lt.2 within, if_false]
  rfl

theorem writeEnvelope_within (serves : Serves .jsonEnvelope response blob)
    (calm : scene.disk.faults = []) (found : scene.disk.content? destination = some former)
    (within : blob.length ≤ limit.toNat) (short : blob.length ≤ longestBlob) :
    ∃ disk, (writeEnvelope response destination limit).on scene = (.ok (), { scene with disk }) ∧
      Disk.Refilled destination blob scene.disk disk := by
  obtain ⟨disk, wrote, refilled⟩ := Disk.write_of_content calm found blob
  refine ⟨disk, ?_, refilled⟩
  rw [writeEnvelope, readEnvelope_within serves within short,
    Step.bind_of_ok (Step.on_reads (fun _ => .ok blob) scene)]
  exact Step.mapError_of_ok TransferError.io (Step.onDisk_of_ok wrote)

variable (scene) in
theorem receive_within (serves : Serves format response blob) (calm : scene.disk.faults = [])
    (found : scene.disk.content? destination = some former)
    (within : blob.length ≤ limit.toNat) (short : blob.length ≤ longestBlob) :
    ∃ disk, (receive response destination limit format).on scene =
        (.ok (), { scene with disk }) ∧
      Disk.Refilled destination blob scene.disk disk := by
  have fits : response.declared.any (longestBody format limit < ·) = false :=
    declared_within (length_bodyOf within short) serves.declared
  simp only [receive, serves.success, fits, Bool.not_true, Bool.false_eq_true, if_false]
  cases format with
  | raw =>
    obtain rfl : response.chunks.flatten = blob := serves.body
    exact writeRaw_within serves.complete calm found within
  | jsonEnvelope => exact writeEnvelope_within serves calm found within short

end Receive

theorem download_within (scene : Scene Backend) {later : Http.Network} {response : Http.Response}
    {destination url : String} {limit : UInt64} {options : TransferOptions} {former blob : Bytes}
    (got : (Http.get options.timeout url).on scene.rest.network = (.ok response, later))
    (serves : Serves options.format response blob) (calm : scene.disk.faults = [])
    (found : scene.disk.content? destination = some former)
    (within : blob.length ≤ limit.toNat) (short : blob.length ≤ longestBlob) :
    ∃ disk, (download destination url limit options).on scene =
        (.ok (), { scene with disk, rest := { scene.rest with network := later } }) ∧
      Disk.Refilled destination blob scene.disk disk := by
  have requested : (request url options.timeout).on scene =
      (.ok response, { scene with rest := { scene.rest with network := later } }) := by
    rw [request_on, got]
    rfl
  obtain ⟨disk, received, refilled⟩ := receive_within
    { scene with rest := { scene.rest with network := later } } serves calm found within short
  refine ⟨disk, ?_, refilled⟩
  rw [download, Step.bind_of_ok requested, received]

end AttachmentFetch.Transfer
