import AttachmentFetch.Proofs.Disk.Footprint
import AttachmentFetch.Proofs.Job.Chain
import AttachmentFetch.Proofs.Job.Traces

/-! A job for an attachment that belongs to another message. None of its calls has an effect
on the store, and it never succeeds, whatever the server and the cipher do; all that it can
leave is the cache directory. -/
namespace AttachmentFetch

/-- The attachment of a task is there, but belongs to another message than the task says. -/
def Database.Foreign (db : Database) (task : DownloadTask) : Prop :=
  ∃ rows row, db.attachments = some rows ∧ (rows.map (·.id)).Nodup ∧ row ∈ rows ∧
    row.id = task.attachment ∧ row.message ≠ task.message

theorem Database.Foreign.unowned {db : Database} {task : DownloadTask} (foreign : db.Foreign task) :
    ∃ rows, db.attachments = some rows ∧
      ¬∃ row ∈ rows, row.id = task.attachment ∧ row.message = task.message := by
  obtain ⟨rows, row, tables, different, listed, id_eq, message_ne⟩ := foreign
  refine ⟨rows, tables, ?_⟩
  rintro ⟨other, listed', id_eq', message_eq⟩
  obtain rfl := List.inj_on_of_nodup_map different listed listed' (id_eq.trans id_eq'.symm)
  exact message_ne message_eq

structure Scene.Fills (paths : List String) (before after : Scene Backend) : Prop where
  writes : before.WritesOnly paths after
  makes : Disk.MakesOnly [] before.disk after.disk

/-- The services of a client's store, with any server that writes only to the file that it is
given and any cipher that writes nothing. -/
structure Repository.Serves (repository : Repository) (services : Services Backend) : Prop where
  findPointer : services.findPointer = Repository.findPointer
  setState : services.setState = Repository.setState
  insertContent : services.insertContent = repository.insertContent
  download : ∀ destination url limit options,
    Step.Keeps (Scene.Fills [destination]) (services.download destination url limit options)
  openSealed : ∀ source expected key digest,
    Step.Keeps (Scene.Fills []) (services.openSealed source expected key digest)

structure Scene.Opens (directory : String) (before after : Scene Backend) : Prop where
  database : after.rest.database = before.rest.database
  directories : ∀ place, before.disk.node? place = some .directory →
    after.disk.node? place = some .directory
  makes : Disk.MakesOnly (Path.directories directory) before.disk after.disk

namespace Scene
variable {paths : List String} {directory : String} {first second third : Scene Backend}

theorem SameStore.fills (same : first.SameStore second) : first.Fills paths second :=
  ⟨same.writesOnly paths, same.disk ▸ Std.Refl.refl _⟩

theorem Fills.trans (h : first.Fills paths second) (h' : second.Fills paths third) :
    first.Fills paths third :=
  ⟨Trans.trans h.writes h'.writes, h.makes.trans h'.makes⟩

theorem Fills.mono {more : List String} (h : first.Fills paths second)
    (subset : ∀ path ∈ paths, path ∈ more) : first.Fills more second :=
  ⟨⟨h.writes.database, h.writes.disk.mono subset⟩, h.makes⟩

theorem Fills.opens (h : first.Fills paths second) : first.Opens directory second :=
  ⟨h.writes.database, h.writes.disk.directories, h.makes.mono nofun⟩

theorem SameStore.opens (same : first.SameStore second) : first.Opens directory second :=
  have fills : first.Fills [] second := same.fills
  fills.opens

namespace Opens

theorem refl (scene : Scene Backend) : scene.Opens directory scene :=
  ⟨rfl, fun _ => id, Std.Refl.refl _⟩

theorem trans (h : first.Opens directory second) (h' : second.Opens directory third) :
    first.Opens directory third :=
  ⟨h'.database.trans h.database, fun place => h'.directories place ∘ h.directories place,
    h.makes.trans h'.makes⟩

theorem target (h : first.Opens directory second) (path : String) :
    second.disk.target path = first.disk.target path := by
  rw [Disk.target, Disk.target, h.makes.workingDirectory]

theorem of_alike (alike : first.Alike second) : first.Opens directory second := by
  refine ⟨congrArg Backend.database alike.rest, fun place => ?_, ?_⟩ <;> rw [alike.disk]
  · exact id
  · exact Std.Refl.refl _

end Opens

end Scene

theorem Repository.serves_services (repository : Repository) :
    repository.Serves repository.services where
  findPointer := rfl
  setState := rfl
  insertContent := rfl
  download destination url limit options scene :=
    ⟨Transfer.download_keeps destination url limit options scene,
      Transfer.download_disks (Disk.append_makes []) (Disk.create_makes []) (Disk.started_makes [])
        destination url options scene⟩
  openSealed source expected key digest scene :=
    ⟨(Envelope.openFile_keeps [] source expected key digest scene).writesOnly,
      Envelope.openFile_disks (Disk.started_makes []) source expected key digest scene⟩

namespace DownloadJob
variable {repository : Repository} {services : Services Backend} {settings : DownloadSettings}
  {task : DownloadTask} {pointer : Pointer} {path : String} {start after : Scene Backend}
  {seen : List (Sighting Backend)}

/-- The calls were made where at most directories were new, and leave all files alone but a
download's own. -/
def Harmless (directory : String) (start : Scene Backend) (seen : List (Sighting Backend)) :
    Prop :=
  ∀ sighting ∈ seen, start.Opens directory sighting.before ∧
    ∀ place, sighting.Spares place false

namespace Harmless
variable {directory : String} {first : Scene Backend} {later : List (Sighting Backend)}

theorem nil : Harmless directory start [] := fun _ listed => absurd listed List.not_mem_nil

theorem cons {sighting : Sighting Backend} (opens : start.Opens directory sighting.before)
    (spares : ∀ place, sighting.Spares place false) (h : Harmless directory start seen) :
    Harmless directory start (sighting :: seen) := by
  intro other listed
  rcases List.mem_cons.1 listed with rfl | listed
  · exact ⟨opens, spares⟩
  · exact h other listed

theorem append (h : Harmless directory start seen) (h' : Harmless directory start later) :
    Harmless directory start (seen ++ later) := fun sighting listed =>
  (List.mem_append.1 listed).elim (h sighting) (h' sighting)

theorem afterOpening (opens : start.Opens directory first) (h : Harmless directory first seen) :
    Harmless directory start seen :=
  fun sighting listed => ⟨opens.trans (h sighting listed).1, (h sighting listed).2⟩

end Harmless

theorem spares_of_same {sighting : Sighting Backend}
    (same : sighting.before.SameStore sighting.after) (place : Place) :
    sighting.Spares place false :=
  ⟨by rw [same.disk], fun _ => by rw [same.disk]⟩

theorem spares_of_fills {call : ServiceCall} (fills : start.Fills [] after) (place : Place) :
    Sighting.Spares place false ⟨call, start, after⟩ :=
  ⟨fills.makes.workingDirectory, fun _ => fills.writes.disk.files place nofun⟩

theorem spares_of_download {url limit options result}
    (fills : start.Fills [path] after) (place : Place) :
    Sighting.Spares place false ⟨.download path url limit options result, start, after⟩ := by
  refine ⟨fills.makes.workingDirectory, fun elsewhere => fills.writes.disk.files place ?_⟩
  intro other listed
  rw [List.mem_singleton.1 listed]
  exact Ne.symm (of_decide_eq_false elsewhere)

theorem making_opens {directory : String} {result : Except IoError ScratchFile}
    (made : (Scene.onDisk (ScratchFile.makeIn directory)).on start = (result, after)) :
    start.Opens directory after := by
  obtain ⟨number, touches, -⟩ := ScratchFile.makeIn_touches directory start.disk
  have makes := Disk.makeIn_makes directory start.disk
  rw [Step.on_onDisk] at made
  cases made
  exact ⟨rfl, touches.directories, makes⟩

theorem removed_opens {directory : String} {file : ScratchFile}
    (cleared : (file.removed start).Alike after) : start.Opens directory after := by
  have removes : start.Opens directory (file.removed start) :=
    ⟨rfl, (Disk.remove_keeps file.path start.disk).directories,
      Disk.remove_makes _ file.path start.disk⟩
  exact removes.trans (.of_alike cleared)

section Calls
variable (serves : repository.Serves services)
include serves

theorem found_same {attachment : AttachmentId} {result : Except ErrorChain (Option Pointer)}
    (found : (services.findPointer attachment).on start = (result, after)) :
    start.SameStore after := by
  rw [serves.findPointer] at found
  exact (Repository.findPointer_keeps attachment).related found

theorem marked_same {state : AttachmentState} {result : Except ErrorChain Unit}
    (foreign : start.rest.database.Foreign task)
    (marked : (services.setState state task.attachment task.message).on start = (result, after)) :
    start.SameStore after := by
  obtain ⟨rows, tables, unowned⟩ := foreign.unowned
  rw [serves.setState] at marked
  have same := Repository.setState_unowned tables unowned state
  rwa [marked] at same

theorem inserted_same {content : Content} {result : Except ErrorChain Unit}
    (foreign : start.rest.database.Foreign task)
    (inserted : (services.insertContent task.message task.attachment content).on start =
      (result, after)) : start.SameStore after ∧ ∃ error, result = .error error := by
  obtain ⟨rows, tables, unowned⟩ := foreign.unowned
  obtain ⟨error, _, refused, same⟩ := repository.insertContent_unowned tables unowned content
  rw [serves.insertContent, refused] at inserted
  cases inserted
  exact ⟨same, error, rfl⟩

theorem Opened.foreign {result : Except AttemptError Content} (directory : String)
    (opened : Opened services pointer path start seen result after) :
    start.Fills [] after ∧ Harmless directory start seen := by
  cases opened with
  | keyless => exact ⟨(Std.Refl.refl start : start.SameStore start).fills, .nil⟩
  | unsealed isSealed keyed opened =>
    have fills := (serves.openSealed _ _ _ _).related opened
    exact ⟨fills, .cons (.refl _) (spares_of_fills fills) .nil⟩
  | plain isSealed read =>
    refine ⟨⟨((openContent_keeps [] isSealed).related read).writesOnly, ?_⟩, .nil⟩
    exact (openContent_disks (Disk.started_makes []) isSealed).related read

theorem Delivered.foreign {result : Except AttemptError Unit} (directory : String)
    (foreign : start.rest.database.Foreign task) (own : pointer.id = task.attachment)
    (delivered : Delivered services settings task pointer path start seen result after) :
    start.Fills [path] after ∧ Harmless directory start seen ∧ ∃ error, result = .error error := by
  cases delivered with
  | undelivered fetched =>
    have fills := (serves.download _ _ _ _).related fetched
    exact ⟨fills, .cons (.refl _) (spares_of_download fills) .nil, _, rfl⟩
  | unopened fetched opened =>
    have fills := (serves.download _ _ _ _).related fetched
    obtain ⟨opens, harmless⟩ := opened.foreign serves directory
    exact ⟨fills.trans (opens.mono nofun), .cons (.refl _) (spares_of_download fills)
      (harmless.afterOpening fills.opens), _, rfl⟩
  | handed fetched opened inserted =>
    have fills := (serves.download _ _ _ _).related fetched
    obtain ⟨opens, harmless⟩ := opened.foreign serves directory
    have database := opens.writes.database.trans fills.writes.database
    rw [own] at inserted
    obtain ⟨same, error, rfl⟩ := inserted_same serves (database ▸ foreign) inserted
    refine ⟨fills.trans ((opens.mono nofun).trans same.fills), ?_, _, rfl⟩
    refine .cons (.refl _) (spares_of_download fills)
      (.append (harmless.afterOpening fills.opens) ?_)
    exact .cons (fills.opens.trans opens.opens) (spares_of_same same) .nil

theorem Attempted.foreign {result : Except AttemptError Unit}
    (foreign : start.rest.database.Foreign task)
    (attempted : Attempted services settings task start seen result after) :
    start.Opens settings.cacheDirectory after ∧ Harmless settings.cacheDirectory start seen ∧
      ∃ error, result = .error error := by
  cases attempted with
  | unfound found | absent found =>
    have same := found_same serves found
    exact ⟨same.opens, .cons (.refl _) (spares_of_same same) .nil, _, rfl⟩
  | unmarked found marked =>
    have same := found_same serves found
    have same' := marked_same serves (same.database ▸ foreign) marked
    refine ⟨same.opens.trans same'.opens, ?_, _, rfl⟩
    exact .cons (.refl _) (spares_of_same same) (.cons same.opens (spares_of_same same') .nil)
  | unmade found marked making =>
    have same := found_same serves found
    have same' := marked_same serves (same.database ▸ foreign) marked
    refine ⟨same.opens.trans (same'.opens.trans (making_opens making)), ?_, _, rfl⟩
    exact .cons (.refl _) (spares_of_same same) (.cons same.opens (spares_of_same same') .nil)
  | ended found marked made delivered cleared =>
    have same := found_same serves found
    have same' := marked_same serves (same.database ▸ foreign) marked
    have opens := same.opens.trans (same'.opens.trans (making_opens made))
    rw [serves.findPointer] at found
    obtain ⟨fills, harmless, failed⟩ := delivered.foreign serves settings.cacheDirectory
      (opens.database ▸ foreign) (Repository.findPointer_id found)
    refine ⟨opens.trans (fills.opens.trans (removed_opens cleared)), ?_, failed⟩
    exact .cons (.refl _) (spares_of_same same)
      (.cons same.opens (spares_of_same same') (harmless.afterOpening opens))

theorem Ran.foreign {ending : JobEnding} (foreign : start.rest.database.Foreign task)
    (ran : Ran services settings task start seen ending after) :
    start.Opens settings.cacheDirectory after ∧ Harmless settings.cacheDirectory start seen ∧
      ((∃ text, ending = .failedPermanently text) ∨ ∃ text, ending = .retriesExhausted text) := by
  induction ran with
  | succeeded attempted =>
    obtain ⟨-, -, error, failed⟩ := attempted.foreign serves foreign
    cases failed
  | givenUp attempted noted marked logged ending =>
    obtain ⟨opens, harmless, -⟩ := attempted.foreign serves foreign
    have opens := opens.trans (.of_alike noted)
    have same := marked_same serves (opens.database ▸ foreign) marked
    refine ⟨opens.trans (same.opens.trans (.of_alike logged)), ?_, ?_⟩
    · exact harmless.append (.cons opens (spares_of_same same) .nil)
    · exact ending.imp (⟨_, ·⟩) (⟨_, ·⟩)
  | again attempted noted _ ih =>
    obtain ⟨opens, harmless, -⟩ := attempted.foreign serves foreign
    have opens := opens.trans (.of_alike noted)
    obtain ⟨opens', harmless', ending⟩ := ih (opens.database ▸ foreign)
    exact ⟨opens.trans opens', harmless.append (harmless'.afterOpening opens), ending⟩

theorem Stuck.refused {place : Place} (foreign : start.rest.database.Foreign task)
    (stuck : Stuck services settings task place start) :
    ∃ path, place = start.disk.target path ∧
      ScratchFile.InDirectory settings.cacheDirectory path ∧
      Refused services settings task path start := by
  obtain ⟨found, marked, made, delivered, leads, held, uncleared⟩ := stuck
  have same := found_same serves found
  have same' := marked_same serves (same.database ▸ foreign) marked
  have opens := same.opens.trans (same'.opens.trans (making_opens made))
  have own := found
  rw [serves.findPointer] at own
  obtain ⟨fills, -⟩ := delivered.foreign serves settings.cacheDirectory (opens.database ▸ foreign)
    (Repository.findPointer_id own)
  obtain ⟨disk, makes, rfl⟩ := Step.onDisk_ok made
  obtain ⟨⟨number, path_eq⟩, -, -, located⟩ := ScratchFile.makeIn_ok makes
  have located := Disk.locate_of_touches fills.writes.disk
    (path_eq ▸ Path.endsWith_join (ScratchFile.isName number) _) located
  rw [← fills.writes.disk.target] at located
  refine ⟨_, ?_, ⟨number, path_eq⟩, ?_⟩
  · exact (leads.symm.trans (fills.writes.disk.target _)).trans (opens.target _)
  · cases befallen : Option.join _ with
    | some fault => exact .intro found marked made delivered rfl befallen
    | none =>
      rw [← leads] at held
      have there := Disk.find_of_content? (Disk.content?_eq_some.2 ⟨located, held⟩)
      obtain ⟨gone, removed⟩ := Disk.remove_of_find there befallen
      cases removed.symm.trans uncleared

end Calls

/-- A run for an attachment of another message leaves every row as it was, and every node of
the disk, up to the cache directory with those above it, which are made where they are
missing; a scratch file stays only if something befalls its removal. The run never succeeds. -/
theorem foreign_run {repository : Repository} {services : Services Backend}
    (serves : repository.Serves services) (settings : DownloadSettings) (backoff : Duration)
    {task : DownloadTask} {scene : Scene Backend} (foreign : scene.rest.database.Foreign task) :
    let ended := Worker.process backoff (downloadJob services settings task) scene
    ended.2.rest.database = scene.rest.database ∧
    (∀ place, ended.2.disk.node? place = scene.disk.node? place ∨
      (scene.disk.node? place = none ∧ ended.2.disk.node? place = some .directory ∧
        ∃ path ∈ Path.directories settings.cacheDirectory, place = scene.disk.target path) ∨
      ∃ path, place = scene.disk.target path ∧
        ScratchFile.InDirectory settings.cacheDirectory path ∧
        ∃ look ∈ sightings services settings backoff task scene, look.call.kind = .find ∧
          Refused services settings task path look.before) ∧
    ((∃ text, ended.1.status = .failedPermanently text) ∨
      ∃ text, ended.1.status = .retriesExhausted text) := by
  intro ended
  have ran := ran_sightings services settings task backoff scene
  obtain ⟨opens, harmless, status⟩ := ran.foreign serves foreign
  refine ⟨opens.database, fun place => ?_, status⟩
  have spared : Spared place false (sightings services settings backoff task scene) :=
    .of_unused fun sighting listed => (harmless sighting listed).2 place
  rcases ran.driven.leaves spared with same | ⟨look, listed, kind, stuck⟩
  · rcases Disk.node?_of_makes (opens.directories place) opens.makes same with same | made
    · exact .inl same
    · exact .inr (.inl made)
  · have before := (harmless look listed).1
    obtain ⟨path, here, inside, refused⟩ := stuck.refused serves (before.database ▸ foreign)
    exact .inr (.inr ⟨path, here.trans (before.target path), inside, look, listed, kind, refused⟩)

theorem foreign_served : Scene.served.rest.database.Foreign ⟨⟨5⟩, ⟨11⟩⟩ :=
  ⟨_, _, rfl, List.nodup_singleton _, List.mem_singleton_self _, rfl, by decide⟩

/-- The attachment of message 10 is asked for as one of message 11, and stays as it was. -/
theorem foreign_run_served :
    let job := downloadJob (⟨"/p"⟩ : Repository).services { cacheDirectory := "/c" } ⟨⟨5⟩, ⟨11⟩⟩
    Scene.served.rest.database.Foreign ⟨⟨5⟩, ⟨11⟩⟩ ∧
      (Worker.process (.ofSeconds 1) job Scene.served).2.rest.database =
        Scene.served.rest.database := by
  intro job
  obtain ⟨database, -, -⟩ := foreign_run (Repository.serves_services ⟨"/p"⟩)
    { cacheDirectory := "/c" } (.ofSeconds 1) foreign_served
  exact ⟨foreign_served, database⟩

/-- Where the cache directory is to be among the parts, it is made there; and a scratch file
stays if the call that is to remove it fails. -/
theorem foreign_run_makesCache :
    let settings (cacheDirectory : String) : DownloadSettings :=
      { cacheDirectory, maxFailures := 1 }
    let job (cacheDirectory : String) :=
      downloadJob (⟨"/p"⟩ : Repository).services (settings cacheDirectory) ⟨⟨5⟩, ⟨11⟩⟩
    let after := (Worker.process (.ofSeconds 1) (job "/p/c") Scene.served).2
    let refused := Scene.served.withFaults (List.replicate 8 none ++ [some ⟨.os 13, 0⟩])
    Scene.served.rest.database.Foreign ⟨⟨5⟩, ⟨11⟩⟩ ∧
      (¬∀ place, Scene.served.disk.target "/p" <+: place →
        after.disk.node? place = Scene.served.disk.node? place) ∧
      refused.disk.content? "/c/push-attachment0.tmp" = none ∧
      (Worker.process (.ofSeconds 1) (job "/c") refused).2.disk.content?
        "/c/push-attachment0.tmp" = some [1, 2, 3] := by
  intro settings job after refused
  refine ⟨foreign_served, fun same => ?_, by decide +kernel, by decide +kernel⟩
  have made : after.disk.node? ["p", "c"] = some .directory := by decide +kernel
  have nothing : Scene.served.disk.node? ["p", "c"] = none := by decide
  have below : Scene.served.disk.target "/p" <+: ["p", "c"] := by decide +kernel
  have kept := same _ below
  rw [made, nothing] at kept
  cases kept

end DownloadJob

end AttachmentFetch
