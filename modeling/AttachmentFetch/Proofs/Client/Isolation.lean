import AttachmentFetch.Proofs.Job.Isolation
import AttachmentFetch.Proofs.Job.Transparency

/-! Downloads that leave each other alone. Whatever comes of a job, it changes nothing that
belongs to another attachment; and as long as neither the database nor the disk fails, jobs for
two attachments come to the same in either order. -/
namespace AttachmentFetch

namespace Database

theorem rows_ext {rows rows' : List AttachmentRow} (ids : rows'.map (·.id) = rows.map (·.id))
    (same : ∀ id, rows'.filter (·.id = id) = rows.filter (·.id = id)) : rows' = rows := by
  induction rows generalizing rows' with
  | nil => exact List.map_eq_nil_iff.1 ids
  | cons row rows ih =>
    cases rows' with
    | nil => cases ids
    | cons row' rows' =>
      obtain ⟨id, later⟩ := List.cons.inj ids
      have here := same row.id
      rw [List.filter_cons_of_pos (by simpa using id), List.filter_cons_of_pos (by simp)] at here
      obtain ⟨rfl, rest⟩ := List.cons.inj here
      refine congrArg (row' :: ·) (ih later fun other => ?_)
      by_cases own : row'.id = other
      · rw [← own, rest]
      · have there := same other
        rwa [List.filter_cons_of_neg (by simpa using own),
          List.filter_cons_of_neg (by simpa using own)] at there

theorem SameOutline.timeless_eq {db after : Database} (outline : db.SameOutline after)
    (rows : ∀ id, after.timelessRowsOf id = db.timelessRowsOf id) :
    after.timeless = db.timeless := by
  have headings := outline.headings
  have attachments : after.attachments.map (·.map AttachmentRow.timeless) =
      db.attachments.map (·.map AttachmentRow.timeless) := by
    unfold Database.headings at headings
    rcases tables : db.attachments with _ | listed <;>
      rcases tables' : after.attachments with _ | listed' <;> rw [tables, tables'] at headings
    · cases headings
    · cases headings
    refine congrArg some (rows_ext ?_ fun id => ?_)
    · have ids := congrArg (·.map Prod.fst) (Option.some.inj headings)
      simp only [List.map_map] at ids ⊢
      exact ids
    · have same := rows id
      rw [timelessRowsOf_of_some tables, timelessRowsOf_of_some tables'] at same
      simp only [List.filter_map]
      exact Option.some.inj same
  rw [timeless, timeless, outline.migrated, outline.messages]
  exact congrArg (Database.mk _ _) attachments

end Database

namespace DownloadJob
variable {repository : Repository} {settings : DownloadSettings} {task : DownloadTask}
  {start after : Scene Backend} {seen : List (Sighting Backend)}

theorem Begun.confined {marked : Scene Backend} (begun : Begun task start marked) :
    repository.Confined task.attachment start marked := by
  obtain ⟨⟨now, count, updated⟩, disk⟩ := begun
  exact .of_updated updated (fun _ => rfl) (disk ▸ Std.Refl.refl _)

/-- An attempt for an attachment changes nothing that belongs to another one, whatever comes
of it. -/
theorem Attempted.confined {result : Except AttemptError Unit}
    (attempted : Attempted repository.services settings task start seen result after) :
    repository.Confined task.attachment start after := by
  cases attempted.effect with
  | unmarked _ same => exact .of_same same
  | undelivered _ begun writes => exact begun.confined.trans (.of_scratch writes)
  | inserted _ begun writes inserting clears =>
    exact begun.confined.trans ((Repository.Confined.of_scratch writes).trans
      ((Repository.Confined.of_insertion inserting).trans (.of_scratch clears)))

theorem Ran.confined {ending : JobEnding}
    (ran : Ran repository.services settings task start seen ending after) :
    repository.Confined task.attachment start after := by
  induction ran with
  | succeeded attempted noted => exact attempted.confined.trans (.of_alike noted)
  | givenUp attempted noted marked logged =>
    exact attempted.confined.trans ((Repository.Confined.of_alike noted).trans
      ((Repository.Confined.of_marked marked).trans (.of_alike logged)))
  | again attempted noted _ ih =>
    exact attempted.confined.trans ((Repository.Confined.of_alike noted).trans ih)

end DownloadJob

/-- No two contents are stored, or lie unfinished, in one place. -/
theorem Repository.files_apart (repository : Repository) (disk : Disk)
    (message message' : MessageId) (id id' : AttachmentId) :
    disk.target (repository.partFile message id) ≠
        disk.target (repository.unfinishedFile message' id') ∧
      ((message, id) ≠ (message', id') →
        disk.target (repository.partFile message id) ≠
            disk.target (repository.partFile message' id') ∧
          disk.target (repository.unfinishedFile message id) ≠
            disk.target (repository.unfinishedFile message' id')) := by
  refine ⟨target_partFile_ne_unfinishedFile _ _ _ _ _ _, fun apart => ⟨?_, ?_⟩⟩ <;> intro same
  · obtain ⟨rfl, rfl⟩ := target_partFile_inj same
    exact apart rfl
  · obtain ⟨rfl, rfl⟩ := target_unfinishedFile_inj same
    exact apart rfl

namespace Client
variable {client : Client} {a b task : DownloadTask} {scene one other : Scene Backend}
  {servers : AttachmentId → Http.Network}

theorem fetch_confined (client : Client) (task : DownloadTask) (scene : Scene Backend) :
    client.repository.Confined task.attachment scene (client.fetch task scene).2 :=
  (DownloadJob.ran_sightings client.repository.services client.settings task client.backoff
    scene).confined

/-- Downloads an attachment from servers that know what to answer from the attachment, and from
how often they were asked for it. -/
def fetchFrom (client : Client) (servers : AttachmentId → Http.Network) (task : DownloadTask) :
    StateM (Scene Backend) JobReport :=
  fun scene => client.fetch task (scene.facing (servers task.attachment))

def fetchBoth (client : Client) (servers : AttachmentId → Http.Network)
    (first second : DownloadTask) : StateM (Scene Backend) (JobReport × JobReport) := do
  let report ← client.fetchFrom servers first
  let later ← client.fetchFrom servers second
  return (report, later)

def begins (client : Client) (servers : AttachmentId → Http.Network) (task : DownloadTask)
    (scene : Scene Backend) : List (Scene Backend) :=
  Worker.begins (client.job task) ⟨client.settings.maxFailures, client.backoff⟩ 0
    (scene.facing (servers task.attachment))

/-- Neither of two downloads is disturbed: nothing is to befall the database, and no attempt
fails because the database or the disk does. -/
structure Undisturbed (client : Client) (servers : AttachmentId → Http.Network)
    (first second : DownloadTask) (scene : Scene Backend) : Prop where
  database : scene.rest.Calm
  before : ∀ start ∈ client.begins servers first scene,
    DownloadJob.disturbed client.repository client.settings first start = false
  after : ∀ start ∈ client.begins servers second (client.fetchFrom servers first scene).2,
    DownloadJob.disturbed client.repository client.settings second start = false

theorem fetchFrom_confined (client : Client) (servers : AttachmentId → Http.Network)
    (task : DownloadTask) (scene : Scene Backend) :
    client.repository.Confined task.attachment scene (client.fetchFrom servers task scene).2 := by
  have faces : client.repository.Confined task.attachment scene
      (scene.facing (servers task.attachment)) := .of_same ⟨rfl, rfl⟩
  exact faces.trans (client.fetch_confined task _)

theorem fetchFrom_agree (calm : one.rest.Calm) (calm' : other.rest.Calm)
    (same : client.repository.Unaffected task.attachment one other)
    (undisturbed : ∀ start ∈ client.begins servers task one,
      DownloadJob.disturbed client.repository client.settings task start = false)
    (undisturbed' : ∀ start ∈ client.begins servers task other,
      DownloadJob.disturbed client.repository client.settings task start = false) :
    (client.fetchFrom servers task one).1 = (client.fetchFrom servers task other).1 ∧
      client.repository.Agree task (one.rest.database.has task)
        (client.fetchFrom servers task one).2 (client.fetchFrom servers task other).2 :=
  DownloadJob.process_agree client.backoff (.of_unaffected calm calm' same _) undisturbed
    undisturbed'

theorem calm_fetchFrom (calm : scene.rest.Calm)
    (undisturbed : ∀ start ∈ client.begins servers task scene,
      DownloadJob.disturbed client.repository client.settings task start = false) :
    (client.fetchFrom servers task scene).2.rest.Calm :=
  (fetchFrom_agree calm calm ⟨rfl, fun _ => rfl, fun _ => rfl⟩ undisturbed undisturbed).2.calm

theorem fetchBoth_outline (client : Client) (servers : AttachmentId → Http.Network)
    (first second : DownloadTask) (scene : Scene Backend) :
    scene.rest.database.SameOutline
      (client.fetchBoth servers first second scene).2.rest.database :=
  (client.fetchFrom_confined servers first scene).outline.trans
    (client.fetchFrom_confined servers second _).outline

/-- What is done for the attachment that comes first is not changed afterwards, and it is done
for the one that comes last as if it came first. -/
theorem fetchBoth_swap (apart : a.attachment ≠ b.attachment)
    (steady : client.Undisturbed servers a b scene)
    (steady' : client.Undisturbed servers b a scene) :
    (client.fetchBoth servers a b scene).1.1 = (client.fetchBoth servers b a scene).1.2 ∧
      client.repository.AlikeAt a.attachment (client.fetchBoth servers a b scene).2
        (client.fetchBoth servers b a scene).2 := by
  have confined := client.fetchFrom_confined servers b scene
  have later := client.fetchFrom_confined servers b (client.fetchFrom servers a scene).2
  -- Downloading the other attachment before changes nothing that this download looks at.
  obtain ⟨report, agree⟩ := fetchFrom_agree steady.database
    (calm_fetchFrom steady'.database steady'.before) (confined.others _ apart) steady.before
    steady'.after
  exact ⟨report, (later.others _ apart).alikeAt.symm.trans agree.toAlikeAt⟩

theorem fetchBoth_others (client : Client) (servers : AttachmentId → Http.Network)
    (first second : DownloadTask) (scene : Scene Backend) {id : AttachmentId}
    (other : id ≠ first.attachment) (other' : id ≠ second.attachment) :
    client.repository.Unaffected id scene (client.fetchBoth servers first second scene).2 :=
  ((client.fetchFrom_confined servers first scene).others id other).trans
    ((client.fetchFrom_confined servers second _).others id other')

/-- Whatever comes of a job, it changes nothing that belongs to another attachment: files of
different contents are in different places. So jobs for two attachments come to the same in
either order. -/
theorem fetch_isolated (client : Client) (a b : DownloadTask)
    (apart : a.attachment ≠ b.attachment) (scene : Scene Backend) :
    (∀ (disk : Disk) (message message' : MessageId) (id id' : AttachmentId),
      disk.target (client.repository.partFile message id) ≠
          disk.target (client.repository.unfinishedFile message' id') ∧
        ((message, id) ≠ (message', id') →
          disk.target (client.repository.partFile message id) ≠
              disk.target (client.repository.partFile message' id') ∧
            disk.target (client.repository.unfinishedFile message id) ≠
              disk.target (client.repository.unfinishedFile message' id'))) ∧
      client.repository.Unaffected b.attachment scene (client.fetch a scene).2 ∧
      ∀ servers : AttachmentId → Http.Network, client.Undisturbed servers a b scene →
        client.Undisturbed servers b a scene →
          let ab := client.fetchBoth servers a b scene
          let ba := client.fetchBoth servers b a scene
          ab.1 = ba.1.swap ∧
            ab.2.rest.database.timeless = ba.2.rest.database.timeless ∧
            ∀ message id,
              client.repository.part? ab.2.disk message id =
                  client.repository.part? ba.2.disk message id ∧
                client.repository.unfinished? ab.2.disk message id =
                  client.repository.unfinished? ba.2.disk message id := by
  refine ⟨client.repository.files_apart, (client.fetch_confined a scene).others _ apart.symm,
    fun servers steady steady' => ?_⟩
  intro ab ba
  obtain ⟨reportA, alikeA⟩ := fetchBoth_swap apart steady steady'
  obtain ⟨reportB, alikeB⟩ := fetchBoth_swap apart.symm steady' steady
  have alike (id : AttachmentId) : client.repository.AlikeAt id ba.2 ab.2 := by
    by_cases isA : id = a.attachment
    · exact isA ▸ alikeA.symm
    by_cases isB : id = b.attachment
    · exact isB ▸ alikeB
    · exact (client.fetchBoth_others servers b a scene isB isA).alikeAt.symm.trans
        (client.fetchBoth_others servers a b scene isA isB).alikeAt
  have outline : ba.2.rest.database.SameOutline ab.2.rest.database :=
    (client.fetchBoth_outline servers b a scene).symm.trans
      (client.fetchBoth_outline servers a b scene)
  exact ⟨Prod.ext reportA reportB.symm, outline.timeless_eq fun id => (alike id).rows,
    fun message id => ⟨(alike id).part message, (alike id).unfinished message⟩⟩

def twoServed : Scene Backend :=
  ((register ⟨⟨-6⟩, ⟨10⟩, "http://h/6", 0, none, none, none⟩).on Scene.served).2

def busyAtFirst (id : AttachmentId) : Http.Network :=
  if id = ⟨5⟩ then
    .up [.response { status := 503 }, .response { status := 200, chunks := [[1, 2], [3]] }] []
  else .up [.response { status := 200, chunks := [[4]] }] []

theorem fetch_isolated_busyAtFirst :
    let client : Client := ⟨⟨"/p"⟩, { cacheDirectory := "/c" }, .ofSeconds 1⟩
    let one := client.fetchBoth busyAtFirst ⟨⟨5⟩, ⟨10⟩⟩ ⟨⟨-6⟩, ⟨10⟩⟩ twoServed
    let other := client.fetchBoth busyAtFirst ⟨⟨-6⟩, ⟨10⟩⟩ ⟨⟨5⟩, ⟨10⟩⟩ twoServed
    one.1 = other.1.swap ∧ one.2.rest.database.timeless = other.2.rest.database.timeless ∧
      client.repository.part? other.2.disk ⟨10⟩ ⟨5⟩ = some [1, 2, 3] := by
  intro client one other
  have steady : client.Undisturbed busyAtFirst ⟨⟨5⟩, ⟨10⟩⟩ ⟨⟨-6⟩, ⟨10⟩⟩ twoServed :=
    ⟨nofun, by decide +kernel, by decide +kernel⟩
  have steady' : client.Undisturbed busyAtFirst ⟨⟨-6⟩, ⟨10⟩⟩ ⟨⟨5⟩, ⟨10⟩⟩ twoServed :=
    ⟨nofun, by decide +kernel, by decide +kernel⟩
  have stored : client.repository.part? one.2.disk ⟨10⟩ ⟨5⟩ = some [1, 2, 3] := by decide +kernel
  obtain ⟨-, -, commutes⟩ := fetch_isolated client ⟨⟨5⟩, ⟨10⟩⟩ ⟨⟨-6⟩, ⟨10⟩⟩ (by decide) twoServed
  obtain ⟨reports, rows, files⟩ := commutes busyAtFirst steady steady'
  exact ⟨reports, rows, (files ⟨10⟩ ⟨5⟩).1.symm.trans stored⟩

end Client

end AttachmentFetch
