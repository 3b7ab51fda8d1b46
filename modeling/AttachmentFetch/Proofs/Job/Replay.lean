import AttachmentFetch.Proofs.Job.Protocol
import AttachmentFetch.Proofs.Job.Scratch
import AttachmentFetch.Proofs.Job.Success
import AttachmentFetch.Proofs.Store.Tables

/-! The last attempt, taken alone. What came out well in it comes out the same when nothing
was tried before: on the tables that the first attempt found, an execution makes the same
calls. -/
namespace AttachmentFetch

namespace DownloadJob

section Calls
variable {services : Services ρ} {settings : DownloadSettings} {task : DownloadTask}
  {pointer : Pointer} {path : String} {start start' after after' : Scene ρ}
  {seen seen' : List (Sighting ρ)}

theorem Attempted.steps
    (attempted : Attempted services settings task start seen (.ok ()) after) :
    ∃ pointer found marked file made filled opened content ready stored,
      (services.findPointer task.attachment).on start = (.ok (some pointer), found) ∧
      (services.setState .started task.attachment task.message).on found = (.ok (), marked) ∧
      (ScratchFile.makeIn settings.cacheDirectory).on marked.disk = (.ok file, made) ∧
      (services.download file.path pointer.url settings.maxBytes settings.options).on
        { marked with disk := made } = (.ok (), filled) ∧
      Opened services pointer file.path filled opened (.ok content) ready ∧
      (services.insertContent task.message pointer.id content).on ready = (.ok (), stored) ∧
      calls seen = .findPointer task.attachment (.ok (some pointer)) ::
        .setState .started task.attachment task.message (.ok ()) ::
        .download file.path pointer.url settings.maxBytes settings.options (.ok ()) ::
        (calls opened ++ [.insertContent task.message pointer.id content (.ok ())]) := by
  generalize result_eq : (Except.ok () : Except AttemptError Unit) = result at attempted
  cases attempted with
  | unfound | absent | unmarked | unmade => cases result_eq
  | ended found marked making delivered =>
    subst result_eq
    obtain ⟨made, called, rfl⟩ := Step.onDisk_ok making
    generalize result_eq : (Except.ok () : Except AttemptError Unit) = result at delivered
    cases delivered with
    | undelivered | unopened => cases result_eq
    | @handed _ opened _ _ result _ fetched opening inserted =>
      cases result with
      | error => cases result_eq
      | ok =>
        refine ⟨_, _, _, _, _, _, opened, _, _, _, found, marked, called, fetched, opening,
          inserted, ?_⟩
        simp

theorem Ran.begins {ending : JobEnding}
    (ran : Ran services settings task start seen ending after) :
    ∃ sighting ∈ seen, sighting.call.kind = .find := by
  cases ran with
  | succeeded attempted =>
    obtain ⟨_, _, _, rfl⟩ := attempted.begins
    exact ⟨_, List.mem_cons_self, rfl⟩
  | givenUp attempted | again attempted =>
    obtain ⟨_, _, _, rfl⟩ := attempted.begins
    exact ⟨_, List.mem_append_left _ List.mem_cons_self, rfl⟩

end Calls

end DownloadJob

end AttachmentFetch
