import AttachmentFetch.Proofs.Job.Permanent

/-! Framing. What is made of a response depends on its body, and not on the pieces in which
the body arrives or on whether its length is announced; and whatever goes wrong, the file
never takes more than the limit. -/
namespace AttachmentFetch

namespace Disk
variable {disk : Disk} {place : Place} {path : String} {content : Bytes}

structure Writable (disk : Disk) (path : String) : Prop where
  calm : disk.faults = []
  created : ∃ place after, (create path).on disk = (.ok place, after)

/-- However an append ends, the file has grown by the beginning of what was given. -/
theorem append_held (found : disk.file? place = some content) (bytes : Bytes) :
    ∃ written, written <+: bytes ∧
      ((append place bytes).on disk).2.file? place = some (content ++ written) := by
  unfold append Step.on
  dsimp only
  split
  next fault faults _ =>
    have found : Disk.file? { disk with faults } place = some content := found
    exact ⟨bytes.take fault.written, List.take_prefix .., file?_extend found _⟩
  next => exact ⟨bytes, List.prefix_rfl, file?_extend (disk.file?_started place ▸ found) bytes⟩

theorem append_calm (calm : disk.faults = []) (place : Place) (bytes : Bytes) :
    ∃ after, (append place bytes).on disk = (.ok (), after) ∧ after.faults = [] := by
  unfold append Step.on
  simp only [calm, List.tail_nil]
  refine ⟨_, rfl, ?_⟩
  unfold extend
  split <;> rfl

theorem write_held (path : String) (content : Bytes) (disk : Disk) :
    let after := ((write path content).on disk).2
    after.file? (disk.target path) = disk.file? (disk.target path) ∨
      ∃ written, written <+: content ∧ after.file? (disk.target path) = some written := by
  intro after
  rcases created : (create path).on disk with ⟨error | place, made⟩
  · refine .inl ?_
    rw [show after = made from congrArg Prod.snd (Step.bind_of_error created),
      faultable_error created, file?_started]
  · obtain ⟨rfl, empty, -⟩ := create_ok created
    obtain ⟨written, isPrefix, held⟩ := append_held empty content
    refine .inr ⟨written, isPrefix, ?_⟩
    rw [show after = _ from congrArg Prod.snd (Step.bind_of_ok created), held, List.nil_append]

end Disk

namespace Transfer

/-- The blob that a body carries, if it carries one within the limit. -/
def unwrap (format : BodyFormat) (limit : UInt64) (body : Bytes) : Except TransferError Bytes :=
  match format with
  | .raw => .ok body
  | .jsonEnvelope => do
    let blob ← decodeEnvelope body
    if limit.toNat < blob.length then throw (.sizeExceeded limit)
    return blob

/-- What streaming comes to, by how much there is to come and how it ends. -/
def streamed (limit : UInt64) (most : Nat) (ending : Http.Ending) (length : Nat) :
    Except TransferError Unit :=
  if most < length then .error (.sizeExceeded limit)
  else match endingError? ending with
    | some error => .error error
    | none => .ok ()

/-- What is made of a body, of whose length nothing was announced. -/
def arrived (format : BodyFormat) (limit : UInt64) (response : Http.Response) :
    Except TransferError Bytes := do
  streamed limit (longestBody format limit) response.ending response.chunks.flatten.length
  unwrap format limit response.chunks.flatten

/-- What is made of a response, if the disk does its part: an error, or the blob that the
file holds then. -/
def verdict (format : BodyFormat) (limit : UInt64) (response : Http.Response) :
    Except TransferError Bytes :=
  if !Http.isSuccess response.status then
    .error (.transport s!"file server responded with {Http.statusText response.status}")
  else if response.declared.any (longestBody format limit < ·) then .error (.sizeExceeded limit)
  else arrived format limit response

theorem io_of_error {call : Disk.Call α} {scene : Scene ρ} {error : IoError} {disk : Disk}
    (h : call.on scene.disk = (.error error, disk)) :
    ((Scene.onDisk call).mapError TransferError.io).on scene =
      (.error (.io error), { scene with disk }) := by
  rw [Step.on_mapError, Step.on_onDisk, h]
  rfl

section Pieces
variable {limit : UInt64} {ending : Http.Ending}

theorem collect_eq {most : Nat} {body : Bytes} {chunks : List Bytes} (short : body.length ≤ most) :
    collect limit most ending body chunks =
      (streamed limit most ending (body ++ chunks.flatten).length).map
        fun _ => body ++ chunks.flatten := by
  induction chunks generalizing body with
  | nil =>
    unfold collect streamed
    rw [List.flatten_nil, List.append_nil, if_neg (Nat.not_lt.2 short)]
    cases endingError? ending <;> rfl
  | cons chunk rest ih =>
    unfold collect
    rw [List.flatten_cons, ← List.append_assoc]
    split
    next long =>
      rw [streamed, if_pos]
      · rfl
      · simp only [List.length_append]
        omega
    next fits => exact ih (by rw [List.length_append]; omega)

theorem appendChunks_result (file : Place) (ending : Http.Ending) (chunks : List Bytes)
    {total : Nat} (within : total ≤ limit.toNat) (scene : Scene ρ) :
    ((appendChunks file limit ending total chunks).on scene).1 =
        streamed limit limit.toNat ending (total + chunks.flatten.length) ∨
      scene.disk.faults ≠ [] ∧
        ∃ error, ((appendChunks file limit ending total chunks).on scene).1 =
          .error (.io error) := by
  induction chunks generalizing total scene with
  | nil =>
    refine .inl ?_
    unfold appendChunks streamed
    rw [List.flatten_nil, List.length_nil, Nat.add_zero, if_neg (Nat.not_lt.2 within)]
    cases endingError? ending <;> rfl
  | cons chunk rest ih =>
    unfold appendChunks
    dsimp only
    rw [List.flatten_cons, List.length_append, ← Nat.add_assoc]
    split
    next long =>
      refine .inl ?_
      rw [streamed, if_pos (by omega)]
      rfl
    next fits =>
      rcases appended : (Disk.append file chunk).on scene.disk with ⟨error | _, disk⟩
      · refine .inr ⟨fun calm => ?_, error, ?_⟩
        · obtain ⟨_, appended', -⟩ := Disk.append_calm calm file chunk
          cases appended.symm.trans appended'
        · rw [Step.bind_of_error (io_of_error appended)]
      · rw [Step.bind_of_ok (Step.mapError_of_ok _ (Step.onDisk_of_ok appended))]
        refine (ih (Nat.not_lt.1 fits) { scene with disk }).imp_right (And.imp_left ?_)
        intro befallen calm
        obtain ⟨_, appended', calm'⟩ := Disk.append_calm calm file chunk
        obtain ⟨-, rfl⟩ := Prod.mk.inj (appended.symm.trans appended')
        exact befallen calm'

theorem appendChunks_calm (file : Place) (limit : UInt64) (ending : Http.Ending) (total : Nat)
    (chunks : List Bytes) {scene : Scene ρ} (calm : scene.disk.faults = []) :
    ((appendChunks file limit ending total chunks).on scene).2.disk.faults = [] := by
  induction chunks generalizing total scene with
  | nil =>
    unfold appendChunks
    split <;> exact calm
  | cons chunk rest ih =>
    unfold appendChunks
    dsimp only
    split
    · exact calm
    · obtain ⟨disk, appended, calm'⟩ := Disk.append_calm calm file chunk
      rw [Step.bind_of_ok (Step.mapError_of_ok _ (Step.onDisk_of_ok appended))]
      exact ih _ calm'

theorem appendChunks_held {file : Place} {total : Nat} (ending : Http.Ending)
    (chunks : List Bytes) {content : Bytes} {scene : Scene ρ}
    (held : scene.disk.file? file = some content)
    (counted : total = content.length) (within : total ≤ limit.toNat) :
    ∃ written, written <+: chunks.flatten ∧ (content ++ written).length ≤ limit.toNat ∧
      ((appendChunks file limit ending total chunks).on scene).2.disk.file? file =
        some (content ++ written) := by
  have same {scene : Scene ρ} {content : Bytes} (held : scene.disk.file? file = some content)
      (within : content.length ≤ limit.toNat) (bytes : Bytes) : ∃ written, written <+: bytes ∧
        (content ++ written).length ≤ limit.toNat ∧
        scene.disk.file? file = some (content ++ written) :=
    ⟨[], List.nil_prefix, by simpa using within, by simpa using held⟩
  induction chunks generalizing total content scene with
  | nil =>
    unfold appendChunks
    split <;> exact same held (counted ▸ within) _
  | cons chunk rest ih =>
    unfold appendChunks
    dsimp only
    split
    · exact same held (counted ▸ within) _
    next fits =>
      obtain ⟨written, isPrefix, grown⟩ := Disk.append_held held chunk
      rcases appended : (Disk.append file chunk).on scene.disk with ⟨error | _, disk⟩
      · rw [appended] at grown
        rw [Step.bind_of_error (io_of_error appended)]
        refine ⟨written, isPrefix.trans (List.prefix_append ..), ?_, grown⟩
        have := isPrefix.length_le
        rw [List.length_append]
        omega
      · have held' : ({ scene with disk } : Scene ρ).disk.file? file = some (content ++ chunk) :=
          Disk.append_ok held appended
        rw [Step.bind_of_ok (Step.mapError_of_ok _ (Step.onDisk_of_ok appended))]
        obtain ⟨more, isPrefix', short, grown⟩ := ih held'
          (by rw [counted, List.length_append]) (Nat.not_lt.1 fits)
        rw [List.append_assoc] at short grown
        exact ⟨chunk ++ more, (List.prefix_append_right_inj chunk).2 isPrefix', short, grown⟩

end Pieces

section Receive
variable {response : Http.Response} {destination url : String} {limit : UInt64}
  {format : BodyFormat} {options : TransferOptions} {blob : Bytes}

theorem writeRaw_result (scene : Scene ρ) :
    ((writeRaw response destination limit).on scene).1 =
        streamed limit limit.toNat response.ending response.chunks.flatten.length ∨
      ¬scene.disk.Writable destination ∧
        ∃ error, ((writeRaw response destination limit).on scene).1 = .error (.io error) := by
  rcases created : (Disk.create destination).on scene.disk with ⟨error | file, disk⟩
  · refine .inr ⟨?_, error, ?_⟩
    · rintro ⟨-, _, _, created'⟩
      cases created.symm.trans created'
    · exact congrArg Prod.fst (Step.bind_of_error (io_of_error created))
  have calm (writable : scene.disk.Writable destination) : disk.faults = [] :=
    (Disk.create_staysCalm destination).related created writable.calm
  have begun (next : Place → Step (Scene ρ) TransferError Unit) :
      ((Scene.onDisk (Disk.create destination)).mapError .io >>= next).on scene =
        (next file).on { scene with disk } :=
    Step.bind_of_ok (Step.mapError_of_ok _ (Step.onDisk_of_ok created))
  rw [show ((writeRaw response destination limit).on scene).1 = _ from congrArg Prod.fst (begun _)]
  have streaming := appendChunks_result file response.ending response.chunks
    (Nat.zero_le limit.toNat) { scene with disk }
  rw [Nat.zero_add] at streaming
  rcases streaming with came | ⟨befallen, error, failed⟩
  · cases outcome : streamed limit limit.toNat response.ending response.chunks.flatten.length with
    | error error =>
      rw [outcome] at came
      exact .inl (congrArg Prod.fst (Step.bind_of_error (Prod.ext came rfl)))
    | ok =>
      rw [outcome] at came
      rw [Step.bind_of_ok (Prod.ext came rfl)]
      rcases synced : (Disk.sync file).on _ with ⟨error | _, last⟩
      · refine .inr ⟨fun writable => ?_, error, congrArg Prod.fst (io_of_error synced)⟩
        have calm : ({ scene with disk } : Scene ρ).disk.faults = [] := calm writable
        have calm := appendChunks_calm file limit response.ending 0 response.chunks calm
        cases synced.symm.trans (Disk.sync_of_calm calm file)
      · exact .inl (congrArg Prod.fst (Step.mapError_of_ok _ (Step.onDisk_of_ok synced)))
  · exact .inr ⟨fun writable => befallen (calm writable), error,
      congrArg Prod.fst (Step.bind_of_error (Prod.ext failed rfl))⟩

theorem readEnvelope_eq (response : Http.Response) (limit : UInt64) :
    (do
      let body ← collect limit (longestBody .jsonEnvelope limit) response.ending [] response.chunks
      let blob ← decodeEnvelope body
      if limit.toNat < blob.length then throw (.sizeExceeded limit)
      return blob : Except TransferError Bytes) = arrived .jsonEnvelope limit response := by
  rw [collect_eq (Nat.zero_le _), List.nil_append, arrived]
  cases streamed limit (longestBody .jsonEnvelope limit) response.ending
    response.chunks.flatten.length <;> rfl

theorem writeEnvelope_result (scene : Scene ρ) :
    (((writeEnvelope response destination limit).on scene).1 =
        (arrived .jsonEnvelope limit response).map fun _ => ()) ∨
      ¬scene.disk.Writable destination ∧
        ∃ error, ((writeEnvelope response destination limit).on scene).1 = .error (.io error) := by
  rw [writeEnvelope, readEnvelope_eq]
  cases arrived .jsonEnvelope limit response with
  | error error => exact .inl rfl
  | ok blob =>
    rw [Step.bind_of_ok (Step.on_reads (fun _ => .ok blob) scene)]
    rcases wrote : (Disk.write destination blob).on scene.disk with ⟨error | _, disk⟩
    · refine .inr ⟨fun writable => ?_, error, congrArg Prod.fst (io_of_error wrote)⟩
      obtain ⟨place, created, creating⟩ := writable.created
      obtain ⟨_, appended, -⟩ := Disk.append_calm
        ((Disk.create_staysCalm destination).related creating writable.calm) place blob
      cases wrote.symm.trans ((Step.bind_of_ok creating).trans appended)
    · exact .inl (congrArg Prod.fst (Step.mapError_of_ok _ (Step.onDisk_of_ok wrote)))

theorem receive_result (response : Http.Response) (destination : String) (limit : UInt64)
    (format : BodyFormat) (scene : Scene ρ) :
    (((receive response destination limit format).on scene).1 =
        (verdict format limit response).map fun _ => ()) ∨
      ¬scene.disk.Writable destination ∧
        ∃ error, ((receive response destination limit format).on scene).1 = .error (.io error) := by
  unfold receive verdict
  dsimp only
  split
  · exact .inl rfl
  split
  · exact .inl rfl
  cases format with
  | raw =>
    refine (writeRaw_result scene).imp_left fun came => came.trans ?_
    dsimp only [arrived, longestBody]
    cases streamed limit limit.toNat response.ending response.chunks.flatten.length <;> rfl
  | jsonEnvelope => exact writeEnvelope_result scene

theorem unwrap_within (h : unwrap format limit response.chunks.flatten = .ok blob)
    (short : response.chunks.flatten.length ≤ longestBody format limit) :
    Carries format response blob ∧ blob.length ≤ limit.toNat := by
  cases format with
  | raw =>
    cases h
    exact ⟨rfl, short⟩
  | jsonEnvelope =>
    unfold unwrap at h
    cases decoded : decodeEnvelope response.chunks.flatten with
    | error error =>
      rw [decoded] at h
      cases h
    | ok blob' =>
      simp only [decoded, bind, Except.bind] at h
      split at h
      · cases h
      next within =>
        cases h
        exact ⟨decodeEnvelope_ok decoded, Nat.not_lt.1 within⟩

theorem Carries.unique {blob' : Bytes} (h : Carries format response blob)
    (h' : Carries format response blob') : blob = blob' := by
  cases format with
  | raw => exact h.symm.trans h'
  | jsonEnvelope =>
    obtain ⟨result, read, decoded⟩ := h
    obtain ⟨result', read', decoded'⟩ := h'
    cases read.symm.trans read'
    cases decoded.symm.trans decoded'
    rfl

theorem streamed_ok {most : Nat} {ending : Http.Ending} {length : Nat} :
    streamed limit most ending length = .ok () ↔ length ≤ most ∧ ending = .complete := by
  unfold streamed
  split
  next long => exact iff_of_false nofun (by omega)
  next short => cases ending <;> simp [endingError?, Nat.not_lt.1 short]

theorem arrived_ok (h : arrived format limit response = .ok blob) :
    Carries format response blob ∧ blob.length ≤ limit.toNat := by
  unfold arrived at h
  cases came : streamed limit (longestBody format limit) response.ending
      response.chunks.flatten.length with
  | error error =>
    rw [came] at h
    cases h
  | ok =>
    rw [came] at h
    exact unwrap_within h (streamed_ok.1 came).1

theorem verdict_ok (h : verdict format limit response = .ok blob) :
    Carries format response blob ∧ blob.length ≤ limit.toNat := by
  unfold verdict at h
  split at h
  · cases h
  split at h
  · cases h
  · exact arrived_ok h

theorem unwrap_ne_io {body : Bytes} {cause : IoError} :
    unwrap format limit body ≠ .error (.io cause) := by
  intro h
  cases format with
  | raw => cases h
  | jsonEnvelope =>
    unfold unwrap at h
    cases decoded : decodeEnvelope body with
    | error error =>
      rw [decoded] at h
      cases h
      cases decodeEnvelope_error decoded
    | ok blob =>
      simp only [decoded, bind, Except.bind] at h
      split at h <;> cases h

theorem verdict_ne_io {cause : IoError} : verdict format limit response ≠ .error (.io cause) := by
  intro h
  unfold verdict at h
  split at h
  · cases h
  split at h
  · cases h
  unfold arrived streamed at h
  split at h
  · cases h
  cases ending : response.ending with
  | broken | stalled =>
    rw [ending] at h
    cases h
  | complete =>
    rw [ending] at h
    exact unwrap_ne_io h

theorem receive_held_ok {scene : Scene ρ}
    (h : ((receive response destination limit format).on scene).1 = .ok ()) :
    ∃ blob, verdict format limit response = .ok blob ∧
      ((receive response destination limit format).on scene).2.disk.file?
        (scene.disk.target destination) = some blob := by
  obtain ⟨blob, -, -, carried, -, held⟩ := receive_ok (Prod.ext h rfl)
  rcases receive_result response destination limit format scene with came | ⟨-, error, failed⟩
  · cases judged : verdict format limit response with
    | error error =>
      rw [judged] at came
      cases came.symm.trans h
    | ok blob' =>
      obtain rfl := (verdict_ok judged).1.unique carried
      exact ⟨blob', rfl, held⟩
  · cases failed.symm.trans h

theorem writeRaw_held (scene : Scene ρ) :
    let held := ((writeRaw response destination limit).on scene).2.disk.file?
      (scene.disk.target destination)
    held = scene.disk.file? (scene.disk.target destination) ∨
      ∃ written, held = some written ∧ written <+: response.chunks.flatten ∧
        written.length ≤ limit.toNat := by
  rw [writeRaw]
  rcases created : (Disk.create destination).on scene.disk with ⟨error | file, disk⟩
  · rw [Step.bind_of_error (io_of_error created), Disk.faultable_error created]
    exact .inl (scene.disk.file?_started _)
  obtain ⟨rfl, empty, -⟩ := Disk.create_ok created
  have empty : ({ scene with disk } : Scene ρ).disk.file? (scene.disk.target destination) =
    some [] := empty
  obtain ⟨written, isPrefix, short, streamed⟩ := appendChunks_held response.ending
    response.chunks empty List.length_nil.symm (Nat.zero_le limit.toNat)
  refine .inr ⟨written, ?_, isPrefix, short⟩
  rw [Step.bind_of_ok (Step.mapError_of_ok _ (Step.onDisk_of_ok created))]
  rcases came : (appendChunks _ limit response.ending 0 response.chunks).on
    { scene with disk } with ⟨error | _, filled⟩
  · rw [Step.bind_of_error came]
    rwa [came] at streamed
  · rw [Step.bind_of_ok came, Step.on_mapError, Step.on_onDisk]
    rw [came] at streamed
    change ((Disk.sync _).on filled.disk).2.file? _ = _
    rw [Disk.sync_on, Disk.file?_started]
    exact streamed

theorem writeEnvelope_held (scene : Scene ρ) :
    let held := ((writeEnvelope response destination limit).on scene).2.disk.file?
      (scene.disk.target destination)
    held = scene.disk.file? (scene.disk.target destination) ∨
      ∃ written blob, held = some written ∧ written <+: blob ∧
        arrived .jsonEnvelope limit response = .ok blob := by
  rw [writeEnvelope, readEnvelope_eq]
  cases arrived .jsonEnvelope limit response with
  | error error => exact .inl rfl
  | ok blob =>
    rw [Step.bind_of_ok (Step.on_reads (fun _ => .ok blob) scene), Step.on_mapError,
      Step.on_onDisk]
    refine (Disk.write_held destination blob scene.disk).imp_right ?_
    rintro ⟨written, isPrefix, held⟩
    exact ⟨written, blob, held, isPrefix, rfl⟩

/-- Whatever goes wrong, the file is as it was, or it has taken the beginning of a blob that
the response carries, and no more than the limit. -/
theorem receive_held (response : Http.Response) (destination : String) (limit : UInt64)
    (format : BodyFormat) (scene : Scene ρ) :
    let held := ((receive response destination limit format).on scene).2.disk.file?
      (scene.disk.target destination)
    held = scene.disk.file? (scene.disk.target destination) ∨
      ∃ written blob, held = some written ∧ written <+: blob ∧ Carries format response blob ∧
        written.length ≤ limit.toNat := by
  unfold receive
  dsimp only
  split
  · exact .inl rfl
  split
  · exact .inl rfl
  cases format with
  | raw =>
    refine (writeRaw_held scene).imp_right ?_
    rintro ⟨written, held, isPrefix, short⟩
    exact ⟨written, _, held, isPrefix, rfl, short⟩
  | jsonEnvelope =>
    refine (writeEnvelope_held scene).imp_right ?_
    rintro ⟨written, blob, held, isPrefix, came⟩
    obtain ⟨carried, within⟩ := arrived_ok came
    exact ⟨written, blob, held, isPrefix, carried, isPrefix.length_le.trans within⟩

theorem receive_untouched {scene : Scene ρ} {error : TransferError}
    (failed : ((receive response destination limit .jsonEnvelope).on scene).1 = .error error)
    (other : ∀ cause, error ≠ .io cause) :
    ((receive response destination limit .jsonEnvelope).on scene).2 = scene := by
  revert failed
  unfold receive
  dsimp only
  split
  · exact fun _ => rfl
  split
  · exact fun _ => rfl
  rw [writeEnvelope, readEnvelope_eq]
  cases arrived .jsonEnvelope limit response with
  | error => exact fun _ => rfl
  | ok blob =>
    intro failed
    rw [Step.bind_of_ok (Step.on_reads (fun _ => .ok blob) scene)] at failed
    obtain ⟨cause, rfl, -⟩ := Step.mapError_error (Prod.ext failed rfl)
    exact absurd rfl (other cause)

theorem decodeEnvelope_of_spelled {body : Bytes} {text : String}
    (read : Json.readAll responseShape.read body = .ok text)
    (spelled : Text.Utf8.encode text = Text.Base64.encode blob) :
    decodeEnvelope body = .ok blob := by
  simp only [decodeEnvelope, read, Text.Base64.decode_iff.2 spelled]

theorem decodeEnvelope_of_other {body : Bytes} (other : ¬IsEnvelope body) :
    ∃ text, decodeEnvelope body = .error (.parseFailure text) := by
  cases decoded : decodeEnvelope body with
  | ok blob => exact absurd (exists_decodeEnvelope.1 ⟨blob, decoded⟩) other
  | error error =>
    have permanent := decodeEnvelope_error decoded
    cases error with
    | parseFailure text => exact ⟨text, rfl⟩
    | transport | sizeExceeded | io => cases permanent

theorem download_on {scene : Scene Backend} {later : Http.Network}
    (got : (Http.get options.timeout url).on scene.rest.network = (.ok response, later)) :
    (download destination url limit options).on scene =
      (receive response destination limit options.format).on
        { scene with rest := { scene.rest with network := later } } := by
  have requested := request_on url options.timeout scene
  rw [got] at requested
  rw [download, Step.bind_of_ok requested]

end Receive

/-- A response of success that arrives whole; a length that it announces is that of its body. -/
structure Whole (response : Http.Response) (body : Bytes) : Prop where
  success : Http.isSuccess response.status = true
  complete : response.ending = .complete
  flat : response.chunks.flatten = body
  declared : ∀ length, response.declared = some length → length = body.length

/-- What the download of a body comes to: its result, and what the file holds then. Nothing
but the body is asked for. -/
def Settles (limit : UInt64) (body : Bytes) (result : Except TransferError Unit)
    (held : Option Bytes) : BodyFormat → Prop
  | .raw =>
    if body.length ≤ limit.toNat then result = .ok () ∧ held = some body
    else result = .error (.sizeExceeded limit)
  | .jsonEnvelope =>
    if longestBody .jsonEnvelope limit < body.length then result = .error (.sizeExceeded limit)
    else
      (¬IsEnvelope body → ∃ text, decodeEnvelope body = .error (.parseFailure text) ∧
        result = .error (.parseFailure text)) ∧
      ∀ text blob, Json.readAll responseShape.read body = .ok text →
        Text.Utf8.encode text = Text.Base64.encode blob →
        if blob.length ≤ limit.toNat then result = .ok () ∧ held = some blob
        else result = .error (.sizeExceeded limit)

section Whole
variable {response : Http.Response} {body : Bytes} {limit : UInt64} {format : BodyFormat}

theorem Whole.verdict_eq (whole : Whole response body) :
    verdict format limit response =
      if longestBody format limit < body.length then .error (.sizeExceeded limit)
      else unwrap format limit body := by
  obtain ⟨success, complete, rfl, declared⟩ := whole
  unfold verdict
  rw [success, Bool.not_true, if_neg Bool.false_ne_true]
  by_cases announced : response.declared.any (longestBody format limit < ·) = true
  · obtain ⟨length, here, long⟩ := (Option.any_eq_true _ _).1 announced
    rw [if_pos announced, if_pos (declared length here ▸ of_decide_eq_true long)]
  · unfold arrived streamed
    rw [if_neg announced, complete]
    split <;> rfl

theorem Whole.settles {result : Except TransferError Unit} {held : Option Bytes}
    (whole : Whole response body)
    (judged : result = (verdict format limit response).map fun _ => ())
    (filled : ∀ blob, verdict format limit response = .ok blob → held = some blob) :
    Settles limit body result held format := by
  rw [whole.verdict_eq] at judged filled
  cases format with
  | raw =>
    change if _ then _ else _
    by_cases within : body.length ≤ limit.toNat
    · rw [if_pos within]
      rw [longestBody, if_neg (Nat.not_lt.2 within)] at judged filled
      exact ⟨judged, filled body rfl⟩
    · rw [if_neg within]
      rwa [longestBody, if_pos (Nat.not_le.1 within)] at judged
  | jsonEnvelope =>
    change if _ then _ else _
    split
    next long => rwa [if_pos long] at judged
    next short =>
      rw [if_neg short] at judged filled
      unfold unwrap at judged filled
      refine ⟨fun other => ?_, fun text blob read spelled => ?_⟩
      · obtain ⟨text, decoded⟩ := decodeEnvelope_of_other other
        rw [decoded] at judged
        exact ⟨text, decoded, judged⟩
      · simp only [decodeEnvelope_of_spelled read spelled, bind, Except.bind] at judged filled
        split
        next within =>
          rw [if_neg (Nat.not_lt.2 within)] at judged filled
          exact ⟨judged, filled blob rfl⟩
        next beyond => rwa [if_pos (Nat.not_le.1 beyond)] at judged

theorem Settles.of_long {result : Except TransferError Unit} {held : Option Bytes}
    (h : Settles limit body result held .raw) (long : limit.toNat < body.length) :
    result = .error (.sizeExceeded limit) :=
  (if_neg (Nat.not_le.2 long)).mp h

end Whole

theorem verdict_of_cut {response : Http.Response} (success : Http.isSuccess response.status = true)
    (cut : response.ending ≠ .complete) (format : BodyFormat) (limit : UInt64) :
    if response.declared.any (longestBody format limit < ·) ∨
        longestBody format limit < response.chunks.flatten.length then
      verdict format limit response = .error (.sizeExceeded limit)
    else ∃ text, verdict format limit response = .error (.transport text) := by
  unfold verdict arrived streamed
  rw [success, Bool.not_true, if_neg Bool.false_ne_true]
  by_cases announced : response.declared.any (longestBody format limit < ·) = true
  · rw [if_pos (.inl announced), if_pos announced]
  rw [if_neg announced]
  by_cases long : longestBody format limit < response.chunks.flatten.length
  · rw [if_pos (.inr long), if_pos long]
    rfl
  rw [if_neg (not_or.2 ⟨announced, long⟩), if_neg long]
  cases ending : response.ending with
  | complete => exact absurd ending cut
  | broken | stalled => exact ⟨_, rfl⟩

/-- What a response of success comes to. If the file can be written, the body alone decides,
however it is framed: what does not arrive whole is an error, and its kind depends on how
much was announced and how much has arrived. On any disk the file is as it was, or it holds
the beginning of what the response carries, within the limit. -/
structure Unframed (response : Http.Response) (destination : String) (limit : UInt64)
    (format : BodyFormat) (before : Disk) (result : Except TransferError Unit) (after : Disk) :
    Prop where
  whole : before.Writable destination → ∀ body, Whole response body →
    Settles limit body result (after.file? (before.target destination)) format
  cut : before.Writable destination → response.ending ≠ .complete →
    if response.declared.any (longestBody format limit < ·) ∨
        longestBody format limit < response.chunks.flatten.length then
      result = .error (.sizeExceeded limit)
    else ∃ text, result = .error (.transport text)
  bounded : after.file? (before.target destination) = before.file? (before.target destination) ∨
    ∃ written blob, after.file? (before.target destination) = some written ∧ written <+: blob ∧
      Carries format response blob ∧ written.length ≤ limit.toNat
  untouched : format = .jsonEnvelope → ∀ error, result = .error error →
    (before.Writable destination ∨ ∀ cause, error ≠ .io cause) → after = before

theorem receive_unframed {response : Http.Response} {destination : String} {limit : UInt64}
    {format : BodyFormat} {scene after : Scene ρ} {result : Except TransferError Unit}
    (success : Http.isSuccess response.status = true)
    (ended : (receive response destination limit format).on scene = (result, after)) :
    Unframed response destination limit format scene.disk result after.disk := by
  have judged (writable : scene.disk.Writable destination) :
      result = (verdict format limit response).map fun _ => () := by
    have received := receive_result response destination limit format scene
    rw [ended] at received
    exact received.resolve_right fun failed => failed.1 writable
  refine ⟨fun writable body whole => ?_, fun writable cut => ?_, ?_, ?_⟩
  · refine whole.settles (judged writable) fun blob came => ?_
    have succeeded : ((receive response destination limit format).on scene).1 = .ok () := by
      rw [ended, judged writable, came]
      rfl
    obtain ⟨blob', came', held⟩ := receive_held_ok succeeded
    cases came.symm.trans came'
    rwa [ended] at held
  · have cutting := verdict_of_cut success cut format limit
    rw [judged writable]
    split
    next long =>
      rw [if_pos long] at cutting
      rw [cutting]
      rfl
    next short =>
      rw [if_neg short] at cutting
      obtain ⟨text, cutting⟩ := cutting
      rw [cutting]
      exact ⟨text, rfl⟩
  · have bounded := receive_held response destination limit format scene
    rwa [ended] at bounded
  · rintro rfl error rfl excused
    have other (cause : IoError) : error ≠ .io cause := by
      refine excused.elim (fun writable => ?_) fun other => other cause
      rintro rfl
      cases came : verdict .jsonEnvelope limit response with
      | ok blob => cases (came ▸ judged writable :)
      | error error =>
        cases (came ▸ judged writable :)
        exact verdict_ne_io came
    have same := receive_untouched (congrArg Prod.fst ended) other
    rw [ended] at same
    exact congrArg Scene.disk same

/-- The outcome of a download does not depend on how its response is framed. -/
theorem download_unframed {scene after : Scene Backend} {destination url : String}
    {limit : UInt64} {options : TransferOptions} {response : Http.Response}
    {later : Http.Network} {result : Except TransferError Unit}
    (got : (Http.get options.timeout url).on scene.rest.network = (.ok response, later))
    (success : Http.isSuccess response.status = true)
    (ended : (download destination url limit options).on scene = (result, after)) :
    Unframed response destination limit options.format scene.disk result after.disk := by
  rw [download_on got] at ended
  have unframed := receive_unframed success ended
  exact unframed

/-- Three bytes in two pieces, whose length is not announced, are one more than is allowed. -/
theorem download_unframed_inPieces :
    let response : Http.Response := { status := 200, chunks := [[1, 2], [3]] }
    Scene.served.disk.Writable "/p/blob" ∧ Whole response [1, 2, 3] ∧
      ∃ result after, (download "/p/blob" "http://h/5" 2 {}).on Scene.served = (result, after) ∧
        Unframed response "/p/blob" 2 .raw Scene.served.disk result after.disk ∧
        result = .error (.sizeExceeded 2) := by
  intro response
  have created : ((Disk.create "/p/blob").on Scene.served.disk).1 = .ok ["p", "blob"] := by
    decide +kernel
  have writable : Scene.served.disk.Writable "/p/blob" := ⟨rfl, _, _, Prod.ext created rfl⟩
  have whole : Whole response [1, 2, 3] := ⟨rfl, rfl, rfl, nofun⟩
  have got : (Http.get ({} : TransferOptions).timeout "http://h/5").on Scene.served.rest.network =
      (.ok response, .up [] ["GET /5"]) := by
    decide +kernel
  rcases ended : (download "/p/blob" "http://h/5" 2 {}).on Scene.served with ⟨result, after⟩
  have unframed := download_unframed got rfl ended
  exact ⟨writable, whole, result, after, rfl, unframed,
    (unframed.whole writable _ whole).of_long (by decide)⟩

end Transfer

end AttachmentFetch
