import AttachmentFetch.Program
import AttachmentFetch.Proofs.Client.Soundness
import AttachmentFetch.Proofs.Download.Reception
import AttachmentFetch.Proofs.Envelope.Sealing
import AttachmentFetch.Proofs.Job.Protocol
import AttachmentFetch.Proofs.Job.Success
import AttachmentFetch.Proofs.Store.Working
import AttachmentFetch.Proofs.Text.Encodings

/-! Delivery: what was sealed for an attachment, and is served as it was sealed, is what
its part holds after one attempt. The same goes for what is not sealed at all; and whatever a
server sends, nothing else is handed to the store. -/
namespace AttachmentFetch

/-- What an attachment is registered with fits the blob that its server has, and the
content that the blob stands for. -/
inductive Intact (registration : CommandLine.Registration) : Bytes → Bytes → Prop
  | sealed {nonce plaintext key sealed digest}
    (sealing : Envelope.sealUnder nonce plaintext key = .ok sealed)
    (key_eq : registration.key = some (Text.Base64.text key))
    (digest_eq : registration.digest = some digest)
    (spelled : Text.Hex.Spells digest sealed.digest)
    (size : registration.size = 0 ∨ registration.size.toNat = plaintext.length) :
    Intact registration sealed.envelope plaintext
  | plain {pointer blob} (pointed : Program.pointer registration = .ok pointer)
    (unsealed : pointer.key.getD "" = "" ∨ pointer.digest.getD [] = [])
    (size : registration.size.toNat < 9223372036854775808)
    (short : blob.length ≤ Transfer.longestBlob) :
    Intact registration blob blob

/-- Nothing befalls the disk, and what a download makes and moves can be made and moved. -/
structure Client.HasRoom (client : Client) (task : DownloadTask) (disk : Disk) : Prop where
  calm : disk.faults = []
  rehearsed : ((Disk.rehearse client.settings.cacheDirectory
    (client.repository.messageDirectory task.message)
    (client.repository.unfinishedFile task.message task.attachment)
    (client.repository.partFile task.message task.attachment)).on disk).1 = .ok ()

structure Repository.Stores (repository : Repository) (task : DownloadTask) (content : Bytes)
    (scene : Scene Backend) : Prop where
  row : ∃ row stored, scene.rest.database.findAttachment task.attachment = .ok (some row) ∧
    row.state = AttachmentState.done.name ∧
    row.partFile = some (repository.partFile task.message task.attachment) ∧
    row.storedSize = some stored ∧ stored.toInt = content.length
  part : scene.disk.content? (repository.partFile task.message task.attachment) = some content

section Open
variable {repository : Repository} {pointer : Pointer} {path : String} {scene : Scene Backend}
  {blob content : Bytes}

theorem openContent_sealed {nonce : Crypto.Gcm.Nonce} {key : Bytes} {sealed : Envelope.Sealed}
    (sealing : Envelope.sealUnder nonce content key = .ok sealed)
    (opens : pointer.OpensWith key sealed.digest)
    (size : pointer.size = 0 ∨ pointer.size.toNat = content.length)
    (calm : scene.disk.faults = []) (found : scene.disk.content? path = some sealed.envelope) :
    (DownloadJob.openContent repository.services pointer path).on scene =
      (.ok { bytes := content }, scene) := by
  obtain ⟨isSealed, keyed, digest⟩ := Pointer.opensWith_iff.1 opens
  have reading : (Disk.read path).on scene.disk = (.ok sealed.envelope, scene.disk) :=
    Disk.read_of_content calm found
  have opened : (Envelope.openFile path pointer.size key sealed.digest).on scene =
      (.ok { bytes := content }, scene) := by
    rw [Envelope.openFile,
      Step.bind_of_ok (Step.mapError_of_ok _ (Step.onDisk_of_ok reading)),
      Envelope.openChecked_sealed sealing size,
      Step.bind_of_ok (Step.on_reads (fun _ => .ok content) scene)]
    rfl
  simp only [DownloadJob.openContent, isSealed, if_true, keyed, digest, Except.mapError]
  rw [Step.bind_of_ok (Step.on_reads (fun _ => .ok key) scene)]
  exact Step.mapError_of_ok _ opened

theorem openContent_unsealed (isSealed : pointer.isSealed = false) (calm : scene.disk.faults = [])
    (found : scene.disk.content? path = some blob) :
    (DownloadJob.openContent repository.services pointer path).on scene =
      (.ok { bytes := blob }, scene) := by
  have opening := Disk.openToRead_of_content calm found
  have draining := Disk.drain_of_file calm (Disk.content?_eq_some.1 found).2
  simp only [DownloadJob.openContent, isSealed, Bool.false_eq_true, if_false]
  rw [Step.bind_of_ok (Step.mapError_of_ok _ (Step.onDisk_of_ok opening)),
    Step.bind_of_ok (Step.mapError_of_ok _ (Step.onDisk_of_ok draining))]
  rfl

end Open

section Intact
variable {registration : CommandLine.Registration} {blob content : Bytes}

structure Pointer.Leads (pointer : Pointer) (blob content : Bytes) : Prop where
  size : pointer.size.toNat < 9223372036854775808
  short : blob.length ≤ Transfer.longestBlob
  storable : content.length < 9223372036854775808
  opens : ∀ (repository : Repository) (scene : Scene Backend) {path : String},
    scene.disk.faults = [] → scene.disk.content? path = some blob →
      (DownloadJob.openContent repository.services pointer path).on scene =
        (.ok { bytes := content }, scene)

theorem pointer_ok {pointer : Pointer} (pointed : Program.pointer registration = .ok pointer) :
    pointer.id = registration.attachment ∧ pointer.message = registration.message ∧
      pointer.url = registration.url ∧ pointer.size = registration.size ∧
      pointer.key = registration.key := by
  unfold Program.pointer at pointed
  split at pointed
  · cases pointed
    exact ⟨rfl, rfl, rfl, rfl, rfl⟩
  · split at pointed <;> cases pointed
    exact ⟨rfl, rfl, rfl, rfl, rfl⟩

theorem pointer_of_spells {text : String} {digest : Bytes}
    (given : registration.digest = some text) (spelled : Text.Hex.Spells text digest) :
    ∃ pointer, Program.pointer registration = .ok pointer ∧ pointer.digest = some digest := by
  unfold Program.pointer
  rw [given]
  simp only [Text.Hex.decode_of_spells spelled]
  exact ⟨_, rfl, rfl⟩

theorem isSealed_eq_false {pointer : Pointer}
    (unsealed : pointer.key.getD "" = "" ∨ pointer.digest.getD [] = []) :
    pointer.isSealed = false := by
  rw [Bool.eq_false_iff]
  intro isSealed
  obtain ⟨text, digest, key_eq, textual, digest_eq, nonempty⟩ :=
    isSealed_iff.1 isSealed
  rw [key_eq, digest_eq] at unsealed
  exact unsealed.elim textual nonempty

theorem pointer_opensWith {nonce : Crypto.Gcm.Nonce} {plaintext key : Bytes}
    {sealed : Envelope.Sealed} {digest : String}
    (sealing : Envelope.sealUnder nonce plaintext key = .ok sealed)
    (key_eq : registration.key = some (Text.Base64.text key))
    (digest_eq : registration.digest = some digest)
    (spelled : Text.Hex.Spells digest sealed.digest) :
    ∃ pointer, Program.pointer registration = .ok pointer ∧
      pointer.OpensWith key sealed.digest := by
  obtain ⟨pointer, pointed, digested⟩ := pointer_of_spells digest_eq spelled
  obtain ⟨-, -, -, -, keyed⟩ := pointer_ok pointed
  obtain ⟨key', rfl, -, -, digest_eq'⟩ := Envelope.sealUnder_ok sealing
  refine ⟨pointer, pointed, Text.Base64.text key'.toList, keyed.trans key_eq, ?_, ?_, digested, ?_⟩
  · exact Text.Base64.text_ne_empty (List.ne_nil_of_length_pos (by simp))
  · rw [Text.Base64.encode_text, Text.Base64.decode_encode]
  · rw [digest_eq']
    exact List.ne_nil_of_length_pos (by simp [Crypto.Sha256.length_digest])

theorem Intact.leads (intact : Intact registration blob content) :
    ∃ pointer : Pointer, Program.pointer registration = .ok pointer ∧
      pointer.Leads blob content := by
  cases intact with
  | @sealed nonce plaintext key sealed digest sealing key_eq digest_eq spelled size =>
    obtain ⟨pointer, pointed, opens⟩ := pointer_opensWith sealing key_eq digest_eq spelled
    obtain ⟨-, -, -, size_eq, -⟩ := pointer_ok pointed
    have length := Envelope.length_sealed sealing
    obtain ⟨-, -, short, -⟩ := Envelope.sealUnder_ok sealing
    unfold Crypto.Gcm.longestText at short
    rw [← size_eq] at size
    refine ⟨pointer, pointed, ?_, ?_, by omega, fun _ _ _ =>
      openContent_sealed sealing opens size⟩
    · rcases size with size | size
      · rw [size]; decide
      · omega
    · unfold Transfer.longestBlob
      omega
  | @plain pointer _ pointed unsealed size short =>
    obtain ⟨-, -, -, size_eq, -⟩ := pointer_ok pointed
    refine ⟨pointer, pointed, size_eq ▸ size, short, ?_,
      fun _ _ _ => openContent_unsealed (isSealed_eq_false unsealed)⟩
    unfold Transfer.longestBlob at short
    omega

end Intact

section Attempt
variable {client : Client} {pointer : Pointer} {message : MessageId} {blob content : Bytes}
  {response : Http.Response} {later : Http.Network}

theorem Repository.stores_of_inserted {repository : Repository} {task : DownloadTask}
    {before stored after : Scene Backend} {directory : String} {number : Nat}
    (owned : before.rest.database.Owner task.attachment task.message)
    (inserting : (repository.insertContent task.message task.attachment { bytes := content }).on
      before = (.ok (), stored))
    (clears : stored.WritesOnly [Path.join directory (ScratchFile.name number)] after) :
    repository.Stores task content after := by
  obtain ⟨-, held, ⟨size, now, count, fits, -, updated⟩, -⟩ := insertContent_ok inserting
  obtain ⟨row, found⟩ := owned.find_updated updated fun _ => rfl
  rw [← clears.database] at found
  refine ⟨⟨_, size, found, rfl, rfl, rfl, toInt_of_int64? fits⟩, ?_⟩
  refine Disk.content?_of_touches clears.disk (endsWith_partFile ..) ?_ held
  intro path named
  rw [List.mem_singleton.1 named]
  exact target_partFile_ne_scratch _ _ _ _ _ _

theorem Client.deliver_intact (scene : Scene Backend) {path : String}
    (leads : pointer.Leads blob content) (calm : scene.rest.databaseFaults = [])
    (calm' : scene.disk.faults = []) (empty : scene.disk.content? path = some [])
    (owned : scene.rest.database.Owner pointer.id message)
    (got : (Http.get client.settings.options.timeout pointer.url).on scene.rest.network =
      (.ok response, later))
    (serves : Transfer.Serves client.settings.options.format response blob)
    (within : blob.length ≤ client.settings.maxBytes.toNat)
    (room : ((Disk.rehearsePart (client.repository.messageDirectory message)
      (client.repository.unfinishedFile message pointer.id)
      (client.repository.partFile message pointer.id)).on scene.disk).1 = .ok ()) :
    ∃ filled stored, (client.repository.services.download path pointer.url
        client.settings.maxBytes client.settings.options).on scene = (.ok (), filled) ∧
      (DownloadJob.openContent client.repository.services pointer path).on filled =
        (.ok { bytes := content }, filled) ∧
      (client.repository.services.insertContent message pointer.id { bytes := content }).on
        filled = (.ok (), stored) ∧
      filled.rest.database = scene.rest.database := by
  obtain ⟨disk, downloading, shape, held⟩ :=
    Transfer.download_within scene got serves calm' empty within leads.short
  have calmFilled := shape.faults.trans calm'
  have room := (Disk.rehearsePart_byShape _ _ _).result shape (Prod.ext room rfl)
  obtain ⟨stored, inserting⟩ := Repository.insertContent_of_room
    { scene with disk, rest := { scene.rest with network := later } } calm calmFilled owned room
    leads.storable
  exact ⟨_, stored, downloading, leads.opens _ _ calmFilled held, inserting, rfl⟩

theorem Client.attempt_intact (scene : Scene Backend) (task : DownloadTask) {row : AttachmentRow}
    (leads : pointer.Leads blob content) (id : pointer.id = task.attachment)
    (calm : scene.rest.databaseFaults = [])
    (found : scene.rest.database.findAttachment task.attachment = .ok (some row))
    (pointed : row.toPointer = .ok pointer) (message : row.message = task.message)
    (got : (Http.get client.settings.options.timeout pointer.url).on scene.rest.network =
      (.ok response, later))
    (serves : Transfer.Serves client.settings.options.format response blob)
    (within : blob.length ≤ client.settings.maxBytes.toNat)
    (room : client.HasRoom task scene.disk) :
    ∃ after, (DownloadJob.attempt client.repository.services client.settings task).on scene =
        (.ok (), after) ∧
      client.repository.Stores task content after := by
  have finding : (client.repository.services.findPointer task.attachment).on scene =
      (.ok (some pointer), scene) := Repository.findPointer_of_row calm found pointed
  obtain ⟨marked, marking, disk_eq, calmMarked, network_eq, owned⟩ :=
    Repository.setState_of_owner calm ⟨row, found, message⟩ .started
  have marking : (client.repository.services.setState .started task.attachment
    task.message).on scene = (.ok (), marked) := marking
  rw [← network_eq] at got
  rw [← disk_eq] at room
  -- The rehearsal begins with the scratch file, whose making is the same in the attempt.
  obtain ⟨calmDisk, rehearsed⟩ := room
  rcases ran : (Disk.rehearse _ _ _ _).on marked.disk with ⟨result, _⟩
  rw [ran] at rehearsed
  obtain rfl : result = .ok () := rehearsed
  obtain ⟨file, made, making, rehearsing⟩ := Step.bind_ok ran
  obtain ⟨number, -, named⟩ :=
    ScratchFile.makeIn_touches client.settings.cacheDirectory marked.disk
  rw [← id] at rehearsing owned
  obtain ⟨filled, stored, downloading, opening, inserting, same⟩ := Client.deliver_intact
    { marked with disk := made } leads calmMarked
    ((Disk.makeIn_staysCalm _).related making calmDisk) (Disk.makeIn_content making) owned got
    serves within (congrArg Prod.fst rehearsing)
  obtain ⟨after, attempted, cleared⟩ :=
    DownloadJob.attempt_of_ok finding marking making downloading opening inserting
  have clears := DownloadJob.removed_writes cleared
  rw [named file made making] at clears
  rw [id] at inserting owned
  refine ⟨after, attempted, Repository.stores_of_inserted ?_ inserting clears⟩
  rw [same]
  exact owned

end Attempt

theorem Client.registered_intact {client : Client} {registration : CommandLine.Registration}
    {blob content : Bytes} {scene : Scene Backend} {response : Http.Response}
    {later : Http.Network} (intact : Intact registration blob content)
    (within : blob.length ≤ client.settings.maxBytes.toNat)
    (got : (Http.get client.settings.options.timeout registration.url).on scene.rest.network =
      (.ok response, later))
    (serves : Transfer.Serves client.settings.options.format response blob)
    (accepts : scene.Accepts registration.attachment)
    (room : client.HasRoom ⟨registration.attachment, registration.message⟩ scene.disk) :
    let task : DownloadTask := ⟨registration.attachment, registration.message⟩
    ∃ pointer registered ended, Program.pointer registration = .ok pointer ∧
      (Client.register pointer).on scene = (.ok (), registered) ∧
      (client.repository.services.findPointer task.attachment).on registered =
        (.ok (some pointer), registered) ∧
      (DownloadJob.attempt client.repository.services client.settings task).on registered =
        (.ok (), ended) ∧
      client.repository.Stores task content ended := by
  intro task
  obtain ⟨pointer, pointed, leads⟩ := intact.leads
  obtain ⟨id, message, url, -, -⟩ := pointer_ok pointed
  rw [← id] at accepts
  rw [← url] at got
  obtain ⟨database, row, registering, found, row_eq, row_message⟩ :=
    Client.register_accepted accepts leads.size
  rw [id] at found
  let registered : Scene Backend := { scene with rest := { scene.rest with database } }
  have calm : registered.rest.databaseFaults = [] := accepts.calm
  obtain ⟨ended, attempted, stores⟩ := Client.attempt_intact registered task leads id calm found
    row_eq (row_message.trans message) got serves within room
  exact ⟨pointer, registered, ended, pointed, registering,
    Repository.findPointer_of_row calm found row_eq, attempted, stores⟩

/-- An attachment that is registered with what belongs to the blob on its server is
stored by one execution, with exactly the content that the blob stands for: what was sealed
in it, or the blob itself if the attachment is not sealed. This holds for every format of
the response, however it is cut into pieces and whether or not its length is announced, up
to blobs of just the length that is allowed. -/
theorem intact_delivered {client : Client} {registration : CommandLine.Registration}
    {blob content : Bytes} {scene : Scene Backend} {response : Http.Response}
    {later : Http.Network} (intact : Intact registration blob content)
    (within : blob.length ≤ client.settings.maxBytes.toNat)
    (got : (Http.get client.settings.options.timeout registration.url).on scene.rest.network =
      (.ok response, later))
    (serves : Transfer.Serves client.settings.options.format response blob)
    (accepts : scene.Accepts registration.attachment)
    (room : client.HasRoom ⟨registration.attachment, registration.message⟩ scene.disk) :
    let task : DownloadTask := ⟨registration.attachment, registration.message⟩
    ∃ pointer registered after, Program.pointer registration = .ok pointer ∧
      (Client.register pointer).on scene = (.ok (), registered) ∧
      (client.job task).execute registered = (.succeeded, after) ∧
      client.repository.Stores task content after := by
  intro task
  obtain ⟨pointer, registered, ended, pointed, registering, -, attempted, stores⟩ :=
    Client.registered_intact intact within got serves accepts room
  obtain ⟨after, executed, alike⟩ := DownloadJob.execute_of_ok attempted
  refine ⟨pointer, registered, after, pointed, registering, executed, ?_⟩
  obtain ⟨row, part⟩ := stores
  rw [← alike.rest] at row
  rw [← alike.disk] at part
  exact ⟨row, part⟩

def secretRegistration (sealed : Envelope.Sealed) : CommandLine.Registration where
  message := ⟨10⟩
  attachment := ⟨5⟩
  url := "http://h/5"
  size := 3
  key := some (Text.Base64.text (Vector.replicate 32 7).toList)
  digest := some (String.ofList (['\n'] ++ (Text.Hex.encode sealed.digest).toList ++ [' ']))

def Scene.answered (response : Http.Response) : Scene Backend :=
  { Scene.unregistered with
    rest := { Scene.unregistered.rest with network := .up [.response response] [] } }

def inTwo (body : Bytes) : Http.Response where
  status := 200
  declared := some body.length
  chunks := [body.take 10, body.drop 10]

def Client.small : Client where
  repository := ⟨"/p"⟩
  settings := { cacheDirectory := "/c", maxBytes := 31, options := { format := .jsonEnvelope } }
  backoff := Duration.ofSeconds 1

structure SecretServed (sealed : Envelope.Sealed) (sent : Http.Network) : Prop where
  opens : ∃ pointer, Program.pointer (secretRegistration sealed) = .ok pointer ∧
    pointer.OpensWith (Vector.replicate 32 7).toList sealed.digest
  intact : Intact (secretRegistration sealed) sealed.envelope [1, 2, 3]
  within : sealed.envelope.length ≤ Client.small.settings.maxBytes.toNat
  got : (Http.get none "http://h/5").on
    (Scene.answered (inTwo (Transfer.compact sealed.envelope))).rest.network =
      (.ok (inTwo (Transfer.compact sealed.envelope)), sent)
  serves : Transfer.Serves .jsonEnvelope (inTwo (Transfer.compact sealed.envelope)) sealed.envelope
  accepts : (Scene.answered (inTwo (Transfer.compact sealed.envelope))).Accepts ⟨5⟩
  room : Client.small.HasRoom ⟨⟨5⟩, ⟨10⟩⟩ Scene.unregistered.disk

theorem secretServed : ∃ sealed sent, Envelope.sealUnder (Vector.replicate 12 9) [1, 2, 3]
    (Vector.replicate 32 7).toList = .ok sealed ∧ SecretServed sealed sent := by
  have short : ([1, 2, 3] : Bytes).length ≤ Crypto.Gcm.longestText := by
    norm_num [Crypto.Gcm.longestText]
  obtain ⟨sealed, sealing⟩ := Envelope.exists_sealed (Vector.replicate 12 9)
    (Vector.replicate 32 7) short
  have blank : ∀ c ∈ ['\n'] ++ [' '], Text.isBlank c = true := by simp [Text.isBlank]
  have asked : (Url.parse? "http://h/5").any (Http.isRequestable ·.withoutCredentials) = true := by
    decide +kernel
  obtain ⟨url, parsed, requestable⟩ := (Option.any_eq_true _ _).1 asked
  obtain ⟨_, got⟩ := Http.get_of_answer none
    (inTwo (Transfer.compact sealed.envelope)) [] [] parsed requestable rfl rfl
  have spelled := Text.Hex.spells_encode blank sealed.digest
  refine ⟨sealed, _, sealing, pointer_opensWith sealing rfl rfl spelled,
    .sealed sealing rfl rfl spelled (.inr rfl), ?within, got, ?serves, ?accepts, rfl,
    by decide +kernel⟩
  case within =>
    rw [Envelope.length_sealed sealing]
    decide
  case serves =>
    refine ⟨rfl, rfl, by simp [inTwo, Transfer.bodyOf], fun length announced => ?_⟩
    exact (Option.some.inj announced).symm
  case accepts => exact ⟨rfl, ⟨[], rfl⟩, [], rfl, fun _ listed => absurd listed List.not_mem_nil⟩

/-- Three bytes that are sealed, served in an envelope of just the size that is allowed,
and delivered. -/
theorem intact_delivered_secret :
    ∃ sealed, Envelope.sealUnder (Vector.replicate 12 9) [1, 2, 3]
        (Vector.replicate 32 7).toList = .ok sealed ∧
      ∃ pointer registered after,
        Program.pointer (secretRegistration sealed) = .ok pointer ∧
        (Client.register pointer).on
          (Scene.answered (inTwo (Transfer.compact sealed.envelope))) = (.ok (), registered) ∧
        (Client.small.job ⟨⟨5⟩, ⟨10⟩⟩).execute registered = (.succeeded, after) ∧
        Client.small.repository.Stores ⟨⟨5⟩, ⟨10⟩⟩ [1, 2, 3] after := by
  obtain ⟨sealed, sent, sealing, secret⟩ := secretServed
  refine ⟨sealed, sealing, ?_⟩
  exact intact_delivered secret.intact secret.within secret.got secret.serves secret.accepts
    secret.room

/-- Whatever the server does and whichever calls fail: content is handed to the store
only after the same attempt has received and, where that is asked for, verified it. -/
theorem insertion_handedOver (repository : Repository) (settings : DownloadSettings)
    (backoff : Duration) (task : DownloadTask) (scene : Scene Backend)
    {earlier later : List (Sighting Backend)} {handed : Sighting Backend}
    (split : sightings repository.services settings backoff task scene =
      earlier ++ handed :: later)
    (insertion : handed.call.isInsertion = true) : HandedOver settings task earlier handed :=
  (DownloadJob.ran_sightings repository.services settings task backoff scene).allHandedOver
    earlier handed later split insertion

/-- Content is handed over when three bytes that are sealed are fetched from their server. -/
theorem insertion_handedOver_secret :
    ∃ scene earlier handed later pointer,
      sightings Client.small.repository.services Client.small.settings Client.small.backoff
        ⟨⟨5⟩, ⟨10⟩⟩ scene = earlier ++ handed :: later ∧
      handed.call.isInsertion = true ∧
      HandedOver Client.small.settings ⟨⟨5⟩, ⟨10⟩⟩ earlier handed ∧
      pointer.isSealed = true ∧
      ∃ found ∈ earlier, found.call = .findPointer ⟨5⟩ (.ok (some pointer)) := by
  obtain ⟨sealed, sent, sealing, secret⟩ := secretServed
  obtain ⟨pointer, registered, ended, pointed, -, finding, attempted, -⟩ :=
    Client.registered_intact secret.intact secret.within secret.got secret.serves secret.accepts
      secret.room
  have isSealed : pointer.isSealed = true := by
    obtain ⟨other, pointed', opens⟩ := secret.opens
    cases pointed.symm.trans pointed'
    exact (Pointer.opensWith_iff.1 opens).1
  have seen := DownloadJob.sightings_of_ok attempted Client.small.backoff
  generalize seen_eq : sightings _ _ _ _ _ = sighted at seen
  cases seen with
  | @ended other middle ready file making seen _ last _ found marked made delivered cleared =>
    have same := finding.symm.trans found
    cases same
    generalize stored : (Except.ok () : Except AttemptError Unit) = result at delivered
    cases delivered with
    | undelivered | unopened => cases stored
    | @handed fetched seen content opened result _ fetching opening inserting =>
      rw [← List.cons_append, ← List.cons_append, ← List.cons_append] at seen_eq
      refine ⟨registered, _, _, [], pointer, seen_eq, rfl, ?_, isSealed, _, List.mem_cons_self, rfl⟩
      exact insertion_handedOver _ _ _ _ _ seen_eq rfl

end AttachmentFetch
