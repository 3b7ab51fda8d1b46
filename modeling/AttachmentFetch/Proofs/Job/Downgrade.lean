import AttachmentFetch.Proofs.Job.Chain
import AttachmentFetch.Proofs.Job.Protocol
import AttachmentFetch.Proofs.Job.Published
import AttachmentFetch.Proofs.Store.Apart

/-! What a run that does not succeed makes of an attachment whose content is stored.
A run asks for no state before it publishes one, so that the row loses its state with the
first write that succeeds; the part is lost only to an insertion that delivers its
content and then fails. -/
namespace AttachmentFetch

theorem AttachmentState.name_injective : Function.Injective AttachmentState.name := by
  intro state other same
  simpa using congrArg ofName? same

/-- The last state that has been published for an attachment, if any has been. -/
def lastPublished? (task : DownloadTask) (seen : List (Sighting ρ)) : Option AttachmentState :=
  ((calls seen).filterMap (·.published? task.attachment task.message)).getLast?

theorem lastPublished?_cons (task : DownloadTask) (sighting : Sighting ρ)
    (later : List (Sighting ρ)) :
    lastPublished? task (sighting :: later) =
      (lastPublished? task later).or
        (sighting.call.published? task.attachment task.message) := by
  simp only [lastPublished?, calls_cons, List.filterMap_cons]
  cases sighting.call.published? task.attachment task.message with
  | none => rw [Option.or_none]
  | some state => simp [List.getLast?_cons, Option.or_some]

theorem ServiceCall.published?_eq_some {call : ServiceCall} {attachment : AttachmentId}
    {message : MessageId} {state : AttachmentState} :
    call.published? attachment message = some state ↔
      call = .setState state attachment message (.ok ()) := by
  unfold published?
  split
  · simp [eq_comm, and_comm]
  next other =>
    refine iff_of_false nofun ?_
    rintro rfl
    exact other _ _ _ rfl

theorem lastPublished?_eq_none {task : DownloadTask} {seen : List (Sighting ρ)} :
    lastPublished? task seen = none ↔
      ∀ state, .setState state task.attachment task.message (.ok ()) ∉ calls seen := by
  rw [lastPublished?, List.getLast?_eq_none_iff, List.filterMap_eq_nil_iff]
  constructor
  · intro none state listed
    cases (none _ listed).symm.trans (ServiceCall.published?_eq_some.2 rfl)
  · intro absent call listed
    cases published : call.published? task.attachment task.message with
    | none => rfl
    | some state =>
      rw [ServiceCall.published?_eq_some.1 published] at listed
      exact absurd listed (absent state)

/-- What a call leaves of the part that an attachment of a message had. An insertion
that fails after its content was delivered removes the part, unless that fails as well. -/
def Repository.leaves (repository : Repository) (message : MessageId) (attachment : AttachmentId)
    (held : Option Bytes) : Sighting Backend → Option Bytes
  | ⟨.insertContent message' attachment' content (.error _), before, _⟩ =>
    if message = message' ∧ attachment = attachment' then
      match (repository.deliver message attachment content id).on before with
      | (.ok _, delivered) =>
        if delivered.disk.faults.head?.join = none then none else some content.bytes
      | (.error _, _) => held
    else held
  | _ => held

def Sighting.Unstored (sighting : Sighting ρ) : Prop :=
  ∀ message attachment content,
    sighting.call ≠ .insertContent message attachment content (.ok ())

/-- The attachment has its content, where the store has put it once. -/
structure Scene.Finished (repository : Repository) (task : DownloadTask) (owner : MessageId)
    (row : AttachmentRow) (bytes : Bytes) (scene : Scene Backend) : Prop where
  found : scene.rest.database.findAttachment task.attachment = .ok (some row)
  owned : row.message = task.message
  finished : row.state = AttachmentState.done.name
  located : row.partFile = some (repository.partFile owner task.attachment)
  held : repository.part? scene.disk owner task.attachment = some bytes

section Part
variable {repository : Repository} {directory : String} {message : MessageId}
  {attachment : AttachmentId}

theorem part?_of_writesScratch {before after : Scene Backend}
    (between : before.WritesScratch directory after) :
    repository.part? after.disk message attachment =
      repository.part? before.disk message attachment := by
  obtain ⟨paths, inside, writes⟩ := between
  exact Repository.part?_of_touches_scratch inside writes.disk

theorem part?_of_inserted {content : Content} {error : ErrorChain} {before after : Scene Backend}
    (failed : (repository.insertContent message attachment content).on before =
      (.error error, after)) :
    repository.part? after.disk message attachment =
      repository.leaves message attachment (repository.part? before.disk message attachment)
        ⟨.insertContent message attachment content (.error error), before, after⟩ := by
  have failed : (repository.insertDuring message attachment content (Scene.others id)).on before =
    (.error error, after) := failed
  simp only [Repository.leaves, and_self, if_true]
  rcases Step.bind_error failed with undelivered | ⟨written, delivered, delivering, publishing⟩
  · have undelivered' : (repository.deliver message attachment content id).on before =
      (.error error, after) := undelivered
    rw [undelivered']
    exact Repository.part?_of_undelivered undelivered message attachment
  · have delivering' : (repository.deliver message attachment content id).on before =
      (.ok written, delivered) := delivering
    rw [delivering']
    exact Repository.part?_of_unpublished delivering publishing

theorem part?_of_made {sighting : Sighting Backend}
    (made : sighting.Made repository.services directory)
    (unstored : sighting.Unstored) :
    repository.part? sighting.after.disk message attachment =
      repository.leaves message attachment
        (repository.part? sighting.before.disk message attachment) sighting := by
  cases made with
  | found made =>
    have same := (Repository.findPointer_keeps _).related made
    exact congrArg (repository.part? · message attachment) same.disk
  | marked made =>
    exact congrArg (repository.part? · message attachment) (Repository.setState_disk made)
  | @inserted message' attachment' content result before after made =>
    cases result with
    | ok => exact absurd rfl (unstored message' attachment' content)
    | error error =>
      by_cases own : message = message' ∧ attachment = attachment'
      · obtain ⟨rfl, rfl⟩ := own
        exact part?_of_inserted made
      · rw [Repository.leaves, if_neg own]
        exact Repository.part?_of_touches_other (Repository.insertContent_error made).2 own
  | @fetched destination _ _ _ _ _ _ inside made =>
    have writes := (Transfer.download_keeps destination _ _ _).related made
    have inside' : ∀ path ∈ [destination], ScratchFile.InDirectory directory path := by
      intro path listed
      rw [List.mem_singleton.1 listed]
      exact inside
    exact Repository.part?_of_touches_scratch inside' writes.disk
  | opened made =>
    have writes := (Envelope.openFile_keeps [] _ _ _ _).related made
    have inside : ∀ path ∈ [], ScratchFile.InDirectory directory path := nofun
    exact Repository.part?_of_touches_scratch inside writes.disk

theorem part?_of_chained {start after : Scene Backend} {seen : List (Sighting Backend)}
    (chained : Chained repository.services directory start seen after)
    (unstored : ∀ sighting ∈ seen, sighting.Unstored) :
    repository.part? after.disk message attachment =
      seen.foldl (repository.leaves message attachment)
        (repository.part? start.disk message attachment) := by
  induction chained with
  | done between => exact part?_of_writesScratch between
  | @call start sighting later after between made _ ih =>
    obtain ⟨here, there⟩ := List.forall_mem_cons.1 unstored
    rw [ih there, List.foldl_cons, part?_of_made made here, part?_of_writesScratch between]

end Part

section Row
variable {repository : Repository} {directory : String} {task : DownloadTask}
  {start after : Scene Backend} {seen : List (Sighting Backend)} {row : AttachmentRow}

/-- The row of an attachment in some state; apart from that, and from the time of the last
change, it is as it was. -/
def Scene.InState (task : DownloadTask) (row : AttachmentRow) (state : Option AttachmentState)
    (scene : Scene Backend) : Prop :=
  ∃ updatedAt, scene.rest.database.findAttachment task.attachment =
    .ok (some { row with state := state.elim row.state (·.name), updatedAt })

theorem inState_of_database {state : Option AttachmentState}
    (same : after.rest.database = start.rest.database) (before : start.InState task row state) :
    after.InState task row state := by
  unfold Scene.InState
  rwa [same]

theorem inState_of_marked {state : AttachmentState} {earlier : Option AttachmentState}
    {attachment : AttachmentId} {message : MessageId} {result : Except ErrorChain Unit}
    (made : (Repository.setState state attachment message).on start = (result, after))
    (owned : row.message = task.message) (before : start.InState task row earlier) :
    after.InState task row (((ServiceCall.setState state attachment message result).published?
      task.attachment task.message).or earlier) := by
  cases result with
  | error => exact inState_of_database (Repository.setState_error made).database before
  | ok =>
    obtain ⟨updatedAt, found⟩ := before
    obtain ⟨count, updated, -⟩ := Repository.setState_ok made
    have found' := Database.findAttachment_updated updated (fun _ => rfl) found
    have id_eq := Database.findAttachment_id found
    dsimp only at id_eq
    simp only [Database.revise] at found'
    simp only [ServiceCall.published?, ← id_eq, ← owned]
    split at found'
    next own =>
      rw [if_pos own, Option.some_or]
      exact ⟨_, found'⟩
    next other =>
      rw [if_neg other, Option.none_or]
      exact ⟨_, found'⟩

theorem inState_of_made {sighting : Sighting Backend} {state : Option AttachmentState}
    (made : sighting.Made repository.services directory)
    (unstored : sighting.Unstored)
    (owned : row.message = task.message) (before : sighting.before.InState task row state) :
    sighting.after.InState task row
      ((sighting.call.published? task.attachment task.message).or state) := by
  cases made with
  | found made =>
    exact inState_of_database ((Repository.findPointer_keeps _).related made).database before
  | marked made => exact inState_of_marked made owned before
  | @inserted message attachment content result _ _ made =>
    cases result with
    | ok => exact absurd rfl (unstored message attachment content)
    | error => exact inState_of_database (Repository.insertContent_error made).1 before
  | fetched inside made =>
    exact inState_of_database ((Transfer.download_keeps _ _ _ _).related made).database before
  | opened made =>
    have writes := (Envelope.openFile_keeps [] _ _ _ _).related made
    exact inState_of_database (congrArg Backend.database writes.rest) before

theorem inState_of_chained (chained : Chained repository.services directory start seen after)
    (unstored : ∀ sighting ∈ seen, sighting.Unstored) {state : Option AttachmentState}
    (owned : row.message = task.message) (before : start.InState task row state) :
    after.InState task row ((lastPublished? task seen).or state) := by
  induction chained generalizing state with
  | done between =>
    obtain ⟨paths, -, writes⟩ := between
    exact inState_of_database (congrArg Backend.database writes.rest) before
  | @call start sighting later after between made _ ih =>
    obtain ⟨paths, -, writes⟩ := between
    obtain ⟨here, there⟩ := List.forall_mem_cons.1 unstored
    have reached := inState_of_database (congrArg Backend.database writes.rest) before
    have ended := ih there (inState_of_made made here owned reached)
    rwa [← Option.or_assoc, ← lastPublished?_cons] at ended

end Row

namespace DownloadJob
variable {services : Services ρ} {settings : DownloadSettings} {task : DownloadTask}
  {start after : Scene ρ} {seen : List (Sighting ρ)}

theorem Attempted.unstored {error : AttemptError}
    (attempted : Attempted services settings task start seen (.error error) after) :
    ∀ sighting ∈ seen, sighting.Unstored := by
  intro sighting listed message attachment content same
  have stored := attempted.protocol.stored.2
    ⟨message, attachment, content, same ▸ List.mem_map_of_mem listed⟩
  cases stored

theorem Ran.unstored {ending : JobEnding}
    (ran : Ran services settings task start seen ending after)
    (unsuccessful : ending ≠ .succeeded) :
    ∀ sighting ∈ seen, sighting.Unstored := by
  induction ran with
  | succeeded => exact absurd rfl unsuccessful
  | givenUp attempted =>
    rw [List.forall_mem_append, List.forall_mem_singleton]
    exact ⟨attempted.unstored, nofun⟩
  | again attempted _ _ ih =>
    exact List.forall_mem_append.2 ⟨attempted.unstored, ih unsuccessful⟩

theorem Attempted.states {result : Except AttemptError Unit}
    (attempted : Attempted services settings task start seen result after)
    {state : AttachmentState} {attachment : AttachmentId} {message : MessageId}
    {written : Except ErrorChain Unit}
    (listed : .setState state attachment message written ∈ calls seen) : state = .started := by
  simpa [ServiceCall.kind] using
    attempted.protocol.ordered.subset (List.mem_map_of_mem listed)

theorem Ran.states {ending : JobEnding}
    (ran : Ran services settings task start seen ending after)
    {state : AttachmentState} {attachment : AttachmentId} {message : MessageId}
    {written : Except ErrorChain Unit}
    (listed : .setState state attachment message written ∈ calls seen) : state ≠ .done := by
  induction ran with
  | succeeded attempted =>
    rw [attempted.states listed]
    nofun
  | givenUp attempted =>
    rw [calls_append, List.mem_append] at listed
    rcases listed with listed | listed
    · rw [attempted.states listed]
      nofun
    · cases List.mem_singleton.1 listed
      nofun
  | again attempted _ _ ih =>
    rw [calls_append, List.mem_append] at listed
    rcases listed with listed | listed
    · rw [attempted.states listed]
      nofun
    · exact ih listed

theorem Attempted.noInsertion {result : Except AttemptError Unit}
    (attempted : Attempted services settings task start seen result after)
    (unpublished : ∀ state, .setState state task.attachment task.message (.ok ()) ∉ calls seen) :
    NoInsertion seen := by
  cases attempted with
  | unfound | absent => exact .cons rfl .nil
  | unmarked => exact .cons rfl (.cons rfl .nil)
  | unmade | ended => exact absurd (by simp) (unpublished .started)

theorem Ran.noInsertion {ending : JobEnding}
    (ran : Ran services settings task start seen ending after)
    (unpublished : ∀ state, .setState state task.attachment task.message (.ok ()) ∉ calls seen) :
    NoInsertion seen := by
  induction ran with
  | succeeded attempted => exact attempted.noInsertion unpublished
  | givenUp attempted =>
    simp only [calls_append, List.mem_append, not_or] at unpublished
    exact List.forall_mem_append.2
      ⟨attempted.noInsertion fun state => (unpublished state).1,
        List.forall_mem_singleton.2 rfl⟩
  | again attempted _ _ ih =>
    simp only [calls_append, List.mem_append, not_or] at unpublished
    exact List.forall_mem_append.2
      ⟨attempted.noInsertion fun state => (unpublished state).1,
        ih fun state => (unpublished state).2⟩

theorem Ran.lastPublished?_ne_done {ending : JobEnding}
    (ran : Ran services settings task start seen ending after) :
    lastPublished? task seen ≠ some .done := by
  intro last
  obtain ⟨call, listed, published⟩ := List.mem_filterMap.1 (List.mem_of_getLast? last)
  rw [ServiceCall.published?_eq_some.1 published] at listed
  exact ran.states listed rfl

end DownloadJob

theorem foldl_leaves {repository : Repository} {message : MessageId} {attachment : AttachmentId}
    {held : Option Bytes} {seen : List (Sighting Backend)} (noInsertion : NoInsertion seen) :
    seen.foldl (repository.leaves message attachment) held = held := by
  induction seen with
  | nil => rfl
  | cons sighting later ih =>
    obtain ⟨here, there⟩ := List.forall_mem_cons.1 noInsertion
    have left : repository.leaves message attachment held sighting = held := by
      obtain ⟨call, before, after⟩ := sighting
      cases call <;> first | rfl | cases here
    rw [List.foldl_cons, left, ih there]

/-- An attachment whose content is stored, and a run for it that does not succeed. The row
keeps its location, but has the state that was published last, which is never that it is
done; the part has the content that the last insertion left which had delivered its
content and then failed, and without such an insertion what it had. So the attachment is
finished as before if and only if no state could be published during the run. -/
theorem unsuccessful_run (repository : Repository) (settings : DownloadSettings)
    (backoff : Duration) (task : DownloadTask) (owner : MessageId) (row : AttachmentRow)
    (bytes : Bytes) (scene : Scene Backend)
    (finished : scene.Finished repository task owner row bytes)
    (unsuccessful : (Worker.process backoff (downloadJob repository.services settings task)
      scene).1.status ≠ .succeeded) :
    let seen := sightings repository.services settings backoff task scene
    let after := (Worker.process backoff (downloadJob repository.services settings task) scene).2
    (∃ updatedAt, after.rest.database.findAttachment task.attachment =
      .ok (some { row with
        state := (lastPublished? task seen).elim AttachmentState.done.name (·.name)
        updatedAt })) ∧
    repository.part? after.disk owner task.attachment =
      seen.foldl (repository.leaves owner task.attachment) (some bytes) ∧
    ((∃ row', after.Finished repository task owner row' bytes) ↔
      ∀ state, .setState state task.attachment task.message (.ok ()) ∉ calls seen) := by
  intro seen after
  have ran : DownloadJob.Ran repository.services settings task scene seen _ after :=
    DownloadJob.ran_sightings repository.services settings task backoff scene
  have unstored := ran.unstored unsuccessful
  have before : scene.InState task row none := ⟨row.updatedAt, finished.found⟩
  obtain ⟨updatedAt, found⟩ := inState_of_chained ran.chained unstored finished.owned before
  rw [Option.or_none, finished.finished] at found
  have held : repository.part? after.disk owner task.attachment =
      seen.foldl (repository.leaves owner task.attachment) (some bytes) := by
    rw [part?_of_chained ran.chained unstored, finished.held]
  refine ⟨⟨updatedAt, found⟩, held, ?_⟩
  rw [← lastPublished?_eq_none]
  constructor
  · rintro ⟨row', still⟩
    cases last : lastPublished? task seen with
    | none => rfl
    | some state =>
      have same := Option.some.inj (Except.ok.inj (still.found.symm.trans found))
      have done := still.finished
      rw [same, last] at done
      obtain rfl : state = .done := AttachmentState.name_injective done
      exact absurd last ran.lastPublished?_ne_done
  · intro unpublished
    rw [unpublished] at found
    have noInsertion := ran.noInsertion (lastPublished?_eq_none.1 unpublished)
    rw [foldl_leaves noInsertion] at held
    exact ⟨_, found, finished.owned, rfl, finished.located, held⟩

def once : DownloadSettings := { cacheDirectory := "/c", maxFailures := 1 }

def storedRow : AttachmentRow where
  id := ⟨5⟩
  message := ⟨10⟩
  url := ""
  size := 0
  key := none
  digest := none
  contentType := none
  state := "Done"
  partFile := some "/p/10/5.bin"
  storedSize := some 1
  updatedAt := 0

theorem storedScene_finished :
    Repository.storedScene.Finished ⟨"/p"⟩ ⟨⟨5⟩, ⟨10⟩⟩ ⟨10⟩ storedRow [1] where
  found := by decide +kernel
  owned := rfl
  finished := rfl
  located := by decide +kernel
  held := by decide +kernel

/-- After a run without a network the content is still there, and is still where the row
says, but the row says no more that it is. -/
theorem unsuccessful_run_once :
    let after := (Worker.process (.ofSeconds 1)
      (downloadJob (⟨"/p"⟩ : Repository).services once ⟨⟨5⟩, ⟨10⟩⟩) Repository.storedScene).2
    ∃ updatedAt, after.rest.database.findAttachment ⟨5⟩ =
      .ok (some { storedRow with state := "Failed", updatedAt }) := by
  intro after
  have unsuccessful : (Worker.process (.ofSeconds 1)
      (downloadJob (⟨"/p"⟩ : Repository).services once ⟨⟨5⟩, ⟨10⟩⟩)
      Repository.storedScene).1.status ≠ .succeeded := by decide +kernel
  obtain ⟨⟨updatedAt, found⟩, -, -⟩ := unsuccessful_run ⟨"/p"⟩ once (.ofSeconds 1) ⟨⟨5⟩, ⟨10⟩⟩ ⟨10⟩
    storedRow [1] Repository.storedScene storedScene_finished unsuccessful
  have last : lastPublished? ⟨⟨5⟩, ⟨10⟩⟩ (sightings (⟨"/p"⟩ : Repository).services once
      (.ofSeconds 1) ⟨⟨5⟩, ⟨10⟩⟩ Repository.storedScene) = some .failed := by decide +kernel
  rw [last] at found
  exact ⟨updatedAt, found⟩

/-- A download of the attachment that fails takes from it that it is done. -/
theorem unsuccessful_run_downgrades :
    let run := Worker.process (.ofSeconds 1)
      (downloadJob (⟨"/p"⟩ : Repository).services once ⟨⟨5⟩, ⟨10⟩⟩) Repository.storedScene
    run.1.status ≠ .succeeded ∧
      Repository.storedScene.rest.database.findAttachment ⟨5⟩ = .ok (some storedRow) ∧
      storedRow.state = AttachmentState.done.name ∧
      AttachmentState.done.isTerminal = true ∧
      (run.2.rest.database.findAttachment ⟨5⟩).map (·.map (·.state)) = .ok (some "Failed") := by
  decide +kernel

end AttachmentFetch
