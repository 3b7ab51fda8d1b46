import AttachmentFetch.Proofs.Job.Effect

/-! A run as a chain of calls. From one call to the next nothing happens but to scratch
files, so that whatever else a run changes it changes through the calls that are seen
of it, one after the other. -/
namespace AttachmentFetch

def ScratchFile.InDirectory (directory path : String) : Prop :=
  ∃ number, path = Path.join directory (name number)

def Scene.WritesScratch (directory : String) (before after : Scene ρ) : Prop :=
  ∃ paths, (∀ path ∈ paths, ScratchFile.InDirectory directory path) ∧
    WritesFiles paths before after

namespace Scene

variable {directory path : String} {first second third : Scene ρ}

namespace WritesScratch

theorem refl (scene : Scene ρ) : WritesScratch directory scene scene :=
  ⟨[], nofun, Std.Refl.refl scene⟩

theorem trans (h : WritesScratch directory first second)
    (h' : WritesScratch directory second third) : WritesScratch directory first third := by
  obtain ⟨paths, inside, writes⟩ := h
  obtain ⟨paths', inside', writes'⟩ := h'
  refine ⟨paths ++ paths', fun path listed => ?_, ?_, ?_⟩
  · exact (List.mem_append.1 listed).elim (inside path) (inside' path)
  · exact writes'.rest.trans writes.rest
  · exact (writes.disk.mono fun _ => List.mem_append_left _).trans
      (writes'.disk.mono fun _ => List.mem_append_right _)

theorem of_writes (inside : ScratchFile.InDirectory directory path)
    (writes : WritesFiles [path] first second) : WritesScratch directory first second := by
  refine ⟨[path], fun other listed => ?_, writes⟩
  rw [List.mem_singleton.1 listed]
  exact inside

end WritesScratch

theorem Alike.writesScratch (alike : first.Alike second) :
    WritesScratch directory first second :=
  ⟨[], nofun, alike.rest, alike.disk ▸ Std.Refl.refl _⟩

end Scene

/-- The call was made of the services, and a download into a scratch file. -/
inductive Sighting.Made (services : Services ρ) (directory : String) : Sighting ρ → Prop
  | found {attachment result before after}
    (made : (services.findPointer attachment).on before = (result, after)) :
    Made services directory ⟨.findPointer attachment result, before, after⟩
  | marked {state attachment message result before after}
    (made : (services.setState state attachment message).on before = (result, after)) :
    Made services directory ⟨.setState state attachment message result, before, after⟩
  | inserted {message attachment content result before after}
    (made : (services.insertContent message attachment content).on before = (result, after)) :
    Made services directory ⟨.insertContent message attachment content result, before, after⟩
  | fetched {destination url limit options result before after}
    (inside : ScratchFile.InDirectory directory destination)
    (made : (services.download destination url limit options).on before = (result, after)) :
    Made services directory ⟨.download destination url limit options result, before, after⟩
  | opened {source expected key digest result before after}
    (made : (services.openSealed source expected key digest).on before = (result, after)) :
    Made services directory ⟨.openSealed source expected key digest result, before, after⟩

/-- From one scene to another the calls were made, one after the other. -/
inductive Chained (services : Services ρ) (directory : String) :
    Scene ρ → List (Sighting ρ) → Scene ρ → Prop
  | done {start after} (between : start.WritesScratch directory after) :
    Chained services directory start [] after
  | call {start sighting later after} (between : start.WritesScratch directory sighting.before)
    (made : sighting.Made services directory)
    (rest : Chained services directory sighting.after later after) :
    Chained services directory start (sighting :: later) after

namespace Chained
variable {services : Services ρ} {directory : String} {start middle after : Scene ρ}
  {seen later : List (Sighting ρ)}

theorem afterScratch (between : start.WritesScratch directory middle)
    (chained : Chained services directory middle seen after) :
    Chained services directory start seen after := by
  cases chained with
  | done between' => exact .done (between.trans between')
  | call between' made rest => exact .call (between.trans between') made rest

theorem append (first : Chained services directory start seen middle)
    (second : Chained services directory middle later after) :
    Chained services directory start (seen ++ later) after := by
  induction first with
  | done between => exact second.afterScratch between
  | call between made _ ih => exact .call between made (ih second)

theorem single {sighting : Sighting ρ} (made : sighting.Made services directory) :
    Chained services directory sighting.before [sighting] sighting.after :=
  .call (.refl _) made (.done (.refl _))

theorem thenScratch (chained : Chained services directory start seen middle)
    (between : middle.WritesScratch directory after) :
    Chained services directory start seen after := by
  have joined := chained.append (.done between)
  rwa [List.append_nil] at joined

end Chained

namespace DownloadJob
variable {services : Services ρ} {settings : DownloadSettings} {task : DownloadTask}
  {pointer : Pointer} {path : String} {start after : Scene ρ} {seen : List (Sighting ρ)}

theorem Opened.chained {directory : String} {result : Except AttemptError Content}
    (opened : Opened services pointer path start seen result after) :
    Chained services directory start seen after := by
  cases opened with
  | keyless => exact .done (.refl _)
  | unsealed isSealed keyed opened => exact .single (.opened opened)
  | plain isSealed read =>
    exact .done ⟨[], nofun, (openContent_keeps [] isSealed).related read⟩

theorem Delivered.chained {result : Except AttemptError Unit}
    (delivered : Delivered services settings task pointer path start seen result after)
    (inside : ScratchFile.InDirectory settings.cacheDirectory path) :
    Chained services settings.cacheDirectory start seen after := by
  cases delivered with
  | undelivered fetched => exact .single (.fetched inside fetched)
  | unopened fetched opened => exact .call (.refl _) (.fetched inside fetched) opened.chained
  | handed fetched opened inserted =>
    exact .call (.refl _) (.fetched inside fetched)
      (opened.chained.append (.single (.inserted inserted)))

theorem removed_writesScratch {directory : String} {file : ScratchFile} {last : Scene ρ}
    (inside : ScratchFile.InDirectory directory file.path)
    (cleared : (file.removed last).Alike after) : last.WritesScratch directory after :=
  (Scene.WritesScratch.of_writes inside
    (Scene.WritesFiles.onDisk (Disk.remove_keeps file.path) last)).trans cleared.writesScratch

theorem made_writesScratch {directory : String} {result : Except IoError ScratchFile}
    (made : (Scene.onDisk (ScratchFile.makeIn directory)).on start = (result, after)) :
    start.WritesScratch directory after ∧
      ∀ file, result = .ok file → ScratchFile.InDirectory directory file.path := by
  obtain ⟨number, touches, named⟩ := ScratchFile.makeIn_touches directory start.disk
  rw [Step.on_onDisk] at made
  obtain ⟨rfl, rfl⟩ := Prod.mk.inj made
  refine ⟨.of_writes ⟨number, rfl⟩ ⟨rfl, touches⟩, fun file made => ⟨number, ?_⟩⟩
  exact named file _ (Prod.ext made rfl)

theorem Attempted.chained {result : Except AttemptError Unit}
    (attempted : Attempted services settings task start seen result after) :
    Chained services settings.cacheDirectory start seen after := by
  cases attempted with
  | unfound found | absent found => exact .single (.found found)
  | unmarked found marked => exact .call (.refl _) (.found found) (.single (.marked marked))
  | unmade found marked made =>
    exact .call (.refl _) (.found found) (.call (.refl _) (.marked marked)
      (.done (made_writesScratch made).1))
  | ended found marked made delivered cleared =>
    obtain ⟨between, named⟩ := made_writesScratch made
    have inside := named _ rfl
    have chained := (delivered.chained inside).afterScratch between
    exact .call (.refl _) (.found found) (.call (.refl _) (.marked marked)
      (chained.thenScratch (removed_writesScratch inside cleared)))

theorem Ran.chained {ending : JobEnding}
    (ran : Ran services settings task start seen ending after) :
    Chained services settings.cacheDirectory start seen after := by
  induction ran with
  | succeeded attempted noted => exact attempted.chained.thenScratch noted.writesScratch
  | givenUp attempted noted marked logged =>
    exact (attempted.chained.thenScratch noted.writesScratch).append
      ((Chained.single (.marked marked)).thenScratch logged.writesScratch)
  | again attempted noted _ ih =>
    exact attempted.chained.append (ih.afterScratch noted.writesScratch)

end DownloadJob

end AttachmentFetch
