import AttachmentFetch.Proofs.Disk.Room
import AttachmentFetch.Proofs.Job.Replay

/-! What a job leaves behind of its own. Whatever its services do, alone or driven by a
worker, each attempt that downloads has made a new file for that, and has removed it when it
ends; and without the store having taken note of it, a job does nothing on the disk. -/
namespace AttachmentFetch

/-- The file at a place is the same on both disks, and paths lead to the same places. -/
structure Disk.SameAt (place : Place) (before after : Disk) : Prop where
  workingDirectory : after.workingDirectory = before.workingDirectory
  file : after.file? place = before.file? place

namespace Disk.SameAt
variable {place : Place} {paths : List String} {first second third : Disk}

instance : Std.Refl (SameAt place) where
  refl _ := ⟨rfl, rfl⟩

theorem trans (h : SameAt place first second) (h' : SameAt place second third) :
    SameAt place first third :=
  ⟨h'.workingDirectory.trans h.workingDirectory, h'.file.trans h.file⟩

instance : Trans (SameAt place) (SameAt place) (SameAt place) where
  trans := trans

theorem of_touches (touches : TouchesOnly paths first second)
    (away : ∀ path ∈ paths, place ≠ first.target path) : SameAt place first second :=
  ⟨touches.workingDirectory, touches.files place away⟩

theorem target (same : SameAt place first second) (path : String) :
    second.target path = first.target path := by
  rw [Disk.target, Disk.target, same.workingDirectory]

end Disk.SameAt

namespace Disk
variable {paths : List String} {before after : Disk} {place : Place}

theorem TouchesOnly.nothing (touches : TouchesOnly paths before after)
    (away : ∀ path ∈ paths, place ≠ before.target path) (nothing : after.node? place = none) :
    before.node? place = none := by
  cases node : before.node? place with
  | none => rfl
  | some node' =>
    cases node' with
    | directory => cases nothing.symm.trans (touches.directories place node)
    | file content =>
      have held := touches.files place away
      rw [file?_eq_some.2 node, file?_eq_some, nothing] at held
      cases held

def SameDirectory (before after : Disk) : Prop :=
  after.workingDirectory = before.workingDirectory

instance : Std.Refl SameDirectory where
  refl _ := rfl

instance : Trans SameDirectory SameDirectory SameDirectory where
  trans h h' := h'.trans h

/-- No name of a scratch file that was given out can be given out again. -/
def Drawn (before after : Disk) : Prop := before.drawn ≤ after.drawn

namespace Drawn

instance : Std.Refl Drawn where
  refl _ := Nat.le_refl _

instance : Trans Drawn Drawn Drawn where
  trans := Nat.le_trans

theorem faultable {call : Disk → Except IoError (α × Disk)}
    (same : ∀ {disk value after}, call disk = .ok (value, after) → after.drawn = disk.drawn) :
    Step.Keeps Drawn (Disk.faultable call) := by
  intro disk
  rcases ran : (Disk.faultable call).on disk with ⟨_ | _, after⟩
  · rw [faultable_error ran]
    exact Nat.le_refl _
  · exact (same (faultable_ok ran)).ge

end Drawn

theorem makeDirectory_drawn (path : String) : Step.Keeps Drawn (makeDirectory path) := by
  apply Drawn.faultable
  intro disk _ after made
  cases found : disk.free path <;> rw [found] at made <;> cases made
  rfl

theorem makeDirectories_drawn (path : String) : Step.Keeps Drawn (makeDirectories path) :=
  makeDirectories_keeps_of fun inner _ => makeDirectory_drawn inner

theorem createNew_drawn (path : String) : Step.Keeps Drawn (createNew path) := by
  apply Drawn.faultable
  intro disk _ after made
  cases found : disk.free path <;> rw [found] at made <;> cases made
  rfl

theorem create_drawn (path : String) : Step.Keeps Drawn (create path) := by
  apply Drawn.faultable
  intro disk _ after made
  split at made
  · cases made
  · cases located : disk.locate path <;> rw [located] at made <;> cases made
    rfl
  · cases found : disk.free path <;> rw [found] at made <;> cases made
    rfl
  · cases made

theorem append_drawn (place : Place) (bytes : Bytes) : Step.Keeps Drawn (append place bytes) := by
  have extended (disk : Disk) (bytes : Bytes) : (disk.extend place bytes).drawn = disk.drawn := by
    unfold extend
    split <;> rfl
  intro disk
  unfold append Step.on
  dsimp only
  split <;> exact (extended _ _).ge.trans' (Nat.le_refl disk.drawn)

theorem write_drawn (path : String) (content : Bytes) : Step.Keeps Drawn (write path content) :=
  .bind (create_drawn path) fun place => append_drawn place content

theorem remove_drawn (path : String) : Step.Keeps Drawn (remove path) := by
  apply Drawn.faultable
  intro disk _ after made
  split at made
  · cases located : disk.locate path <;> rw [located] at made <;> cases made
    rfl
  · cases made
  · cases made

end Disk

namespace ScratchFile
variable {directory : String} {disk after : Disk}

theorem makeIn_drawn (directory : String) : Step.Keeps Disk.Drawn (makeIn directory) :=
  makeIn_keeps (Disk.makeDirectories_drawn directory)
    (fun _ _ later => Nat.le_succ_of_le later) Disk.createNew_drawn

theorem makeIn_fresh {file : ScratchFile} (made : (makeIn directory).on disk = (.ok file, after)) :
    ∃ number, file.path = Path.join directory (name number) ∧ disk.drawn ≤ number ∧
      number < after.drawn ∧ disk.node? (disk.target file.path) = none := by
  obtain ⟨reached, number, place, directories, later, path, created⟩ := makeIn_made made
  have touches := (Disk.makeDirectories_keeps [] directory).related directories
  have drawn := (Disk.makeDirectories_drawn directory).related directories
  have given : number + 1 ≤ after.drawn := (Disk.createNew_drawn _).related created
  obtain ⟨rfl, nothing, -⟩ := Disk.createNew_ok created
  refine ⟨number, path, Nat.le_trans drawn later, given, ?_⟩
  rw [← touches.target]
  exact touches.nothing nofun nothing

theorem name_inj {number number' : Nat} (same : name number = name number') :
    number = number' := by
  have texts : number.repr = number'.repr :=
    (String.append_right_inj nameStart).1 ((String.append_left_inj nameEnd).1 same)
  have read : Text.readInteger none (max number number') number.repr = .ok number :=
    Text.readInteger_natural (Nat.le_max_left ..)
  rw [texts, Text.readInteger_natural (Nat.le_max_right ..)] at read
  exact (Int.ofNat_inj.1 (Except.ok.inj read)).symm

theorem number_of_target {other : String} {number number' : Nat}
    (same : disk.target (Path.join directory (name number)) =
      disk.target (Path.join other (name number'))) : number = number' := by
  rw [Disk.target_join (isName number), Disk.target_join (isName number')] at same
  exact name_inj (List.singleton_inj.1 (List.append_inj_right' same rfl))

theorem number_of_join {number number' : Nat}
    (same : Path.join directory (name number) = Path.join directory (name number')) :
    number = number' := by
  have names := congrArg Path.names same
  rw [Path.names_join (isName number), Path.names_join (isName number')] at names
  injection (List.append_cancel_left_eq ..).mp names with names
  exact name_inj names

theorem makeIn_parent {file : ScratchFile}
    (made : (makeIn directory).on disk = (.ok file, after)) :
    after.node? (after.target directory) = some .directory := by
  obtain ⟨_, number, _, -, -, path, created⟩ := makeIn_made made
  have touches := (Disk.createNew_keeps _).related created
  have parent := Disk.createNew_parent created
  obtain ⟨rfl, -, -⟩ := Disk.createNew_ok created
  rw [path, Disk.target_join (ScratchFile.isName number), List.dropLast_concat] at parent
  rw [touches.target]
  exact touches.directories _ parent

end ScratchFile

/-- Whether a call meets the scratch file that is in use at a place. It is in use from the
download that is sent there until the attempt has ended. -/
def Sighting.uses (place : Place) (used : Bool) (sighting : Sighting ρ) : Bool :=
  match sighting.call with
  | .download destination .. => sighting.before.disk.target destination = place
  | .openSealed .. | .insertContent .. => used
  | .findPointer .. | .setState .. => false

/-- The call changes nothing about a place, unless the scratch file in use is there. -/
structure Sighting.Spares (place : Place) (used : Bool) (sighting : Sighting ρ) : Prop where
  workingDirectory :
    sighting.after.disk.workingDirectory = sighting.before.disk.workingDirectory
  file : sighting.uses place used = false →
    sighting.after.disk.file? place = sighting.before.disk.file? place

/-- The calls, one after the other, change nothing about a place but the scratch file in use.
The flag says whether it is there at first. -/
def Spared (place : Place) (used : Bool) : List (Sighting ρ) → Prop
  | [] => True
  | sighting :: later =>
    sighting.Spares place used ∧ Spared place (sighting.uses place used) later

namespace Spared
variable {place : Place} {used : Bool} {seen later : List (Sighting ρ)}

theorem uses_of_quiet {sighting : Sighting ρ} (quiet : sighting.call.kind ≠ .download)
    (unused : used = false) : sighting.uses place used = false := by
  obtain ⟨call, before, after⟩ := sighting
  cases call with
  | download => exact absurd rfl quiet
  | openSealed | insertContent => exact unused
  | findPointer | setState => rfl

theorem of_unused (spares : ∀ sighting ∈ seen, sighting.Spares place false) :
    Spared place used seen := by
  induction seen generalizing used with
  | nil => trivial
  | cons sighting seen ih =>
    obtain ⟨directory, file⟩ := spares sighting List.mem_cons_self
    refine ⟨⟨directory, fun unused => file ?_⟩, ih fun other listed => ?_⟩
    · obtain ⟨call, before, after⟩ := sighting
      cases call with
      | download => exact unused
      | openSealed | insertContent | findPointer | setState => rfl
    · exact spares other (List.mem_cons_of_mem _ listed)

theorem append (spared : Spared place used (seen ++ later)) :
    Spared place used seen ∧ ∃ used', Spared place used' later := by
  induction seen generalizing used with
  | nil => exact ⟨trivial, used, spared⟩
  | cons sighting seen ih =>
    obtain ⟨first, second⟩ := ih spared.2
    exact ⟨⟨spared.1, first⟩, second⟩

theorem workingDirectory (spared : Spared place used seen) : ∀ sighting ∈ seen,
    sighting.after.disk.workingDirectory = sighting.before.disk.workingDirectory := by
  induction seen generalizing used with
  | nil => exact nofun
  | cons sighting seen ih =>
    exact List.forall_mem_cons.2 ⟨spared.1.workingDirectory, ih spared.2⟩

theorem sameAt (spared : Spared place false seen)
    (elsewhere : ∀ sighting ∈ seen, sighting.uses place false = false) :
    ∀ sighting ∈ seen, sighting.before.disk.SameAt place sighting.after.disk := by
  induction seen with
  | nil => exact nofun
  | cons sighting seen ih =>
    obtain ⟨here, elsewhere⟩ := List.forall_mem_cons.1 elsewhere
    obtain ⟨⟨directory, file⟩, later⟩ := spared
    rw [here] at later
    exact List.forall_mem_cons.2 ⟨⟨directory, file here⟩, ih later elsewhere⟩

end Spared

/-- Whether a call neither begins a download nor is part of one. -/
def ServiceCall.isIdle : ServiceCall → Bool
  | findPointer .. => true
  | setState .started _ _ (.ok ()) => false
  | setState .. => true
  | _ => false

/-- Next to the calls nothing happens on the disk, except while a download is under way.
The flag says whether none is. -/
def Steady (idle : Bool) (disk : Disk) : List (Sighting ρ) → Disk → Prop
  | [], after => idle → after = disk
  | sighting :: later, after =>
    (idle → sighting.before.disk = disk) ∧
      Steady sighting.call.isIdle sighting.after.disk later after

def destinations (seen : List (Sighting ρ)) : List String :=
  seen.filterMap fun sighting =>
    match sighting.call with
    | .download destination .. => some destination
    | _ => none

namespace Steady
variable {idle : Bool} {disk middle after : Disk} {seen later : List (Sighting ρ)}

theorem afterIdle (steady : Steady true middle later after) (same : idle → middle = disk) :
    Steady idle disk later after := by
  cases later with
  | nil => exact fun quiet => (steady rfl).trans (same quiet)
  | cons sighting later => exact ⟨fun quiet => (steady.1 rfl).trans (same quiet), steady.2⟩

theorem append (first : Steady idle disk seen middle) (second : Steady true middle later after) :
    Steady idle disk (seen ++ later) after := by
  induction seen generalizing idle disk with
  | nil => exact second.afterIdle first
  | cons sighting seen ih => exact ⟨first.1, ih first.2⟩

theorem of_busy (disk after : Disk) (busy : ∀ sighting ∈ seen, sighting.call.isIdle = false) :
    Steady false disk seen after := by
  induction seen generalizing disk with
  | nil => exact nofun
  | cons sighting seen ih =>
    refine ⟨nofun, ?_⟩
    rw [busy sighting List.mem_cons_self]
    exact ih _ fun other listed => busy other (List.mem_cons_of_mem _ listed)

end Steady

namespace DownloadJob

section Relations
variable (services : Services ρ) (settings : DownloadSettings) (task : DownloadTask)

/-- Attempts of a job and writes that give it up, one after the other. -/
inductive Driven : Scene ρ → List (Sighting ρ) → Scene ρ → Prop
  | done {start} : Driven start [] start
  | attempt {start seen result ended middle later after}
    (attempted : Attempted services settings task start seen result ended)
    (noted : ended.Alike middle) (rest : Driven middle later after) :
    Driven start (seen ++ later) after
  | giveUp {start result last middle later after}
    (marked : (services.setState .failed task.attachment task.message).on start = (result, last))
    (noted : last.Alike middle) (rest : Driven middle later after) :
    Driven start
      (⟨.setState .failed task.attachment task.message result, start, last⟩ :: later) after

/-- The attempt that begins in a scene has its scratch file at a place, and cannot remove it
although it is there. -/
inductive Stuck (place : Place) (start : Scene ρ) : Prop
  | intro {pointer middle ready file making seen result last content error gone}
    (found : (services.findPointer task.attachment).on start = (.ok (some pointer), middle))
    (marked : (services.setState .started task.attachment task.message).on middle =
      (.ok (), ready))
    (made : (Scene.onDisk (ScratchFile.makeIn settings.cacheDirectory)).on ready =
      (.ok file, making))
    (delivered : Delivered services settings task pointer file.path making seen result last)
    (leads : last.disk.target file.path = place)
    (held : last.disk.file? place = some content)
    (refused : (Disk.remove file.path).on last.disk = (.error error, gone)) :
    Stuck place start

/-- A download goes into a new, empty file directly in the cache directory, made when the
store had taken note that the download begins. -/
structure Fresh (noted fetched : Sighting ρ) (destination : String) : Prop where
  started : noted.call = .setState .started task.attachment task.message (.ok ())
  made : (ScratchFile.makeIn settings.cacheDirectory).on noted.after.disk =
    (.ok ⟨destination⟩, fetched.before.disk)
  inside : ∃ number, destination = Path.join settings.cacheDirectory (ScratchFile.name number) ∧
    fetched.before.disk.target destination =
      fetched.before.disk.target settings.cacheDirectory ++ [ScratchFile.name number]
  new : noted.after.disk.node? (fetched.before.disk.target destination) = none
  empty : fetched.before.disk.content? destination = some []

/-- What a job leaves of itself, by what is seen of it. -/
structure Tidy (start : Scene ρ) (seen : List (Sighting ρ)) (after : Scene ρ) : Prop where
  /-- A place that the calls leave alone, but for the scratch file in use there, is as it was. -/
  files : ∀ place, Spared place false seen →
    after.disk.file? place = start.disk.file? place ∨
      ∃ look ∈ seen, look.call.kind = .find ∧ Stuck services settings task place look.before
  begins : ∀ sighting ∈ seen.head?, sighting.call.kind ≠ .download
  fresh : seen.IsChain fun noted fetched => ∀ destination url limit options result,
    fetched.call = .download destination url limit options result →
      Fresh settings task noted fetched destination
  /-- No two downloads go into the same file, if nobody hands out a name twice. -/
  apart : (∀ sighting ∈ seen, sighting.before.disk.drawn ≤ sighting.after.disk.drawn) →
    (destinations seen).Nodup
  steady : Steady true start.disk seen after.disk

end Relations

variable {services : Services ρ} {settings : DownloadSettings} {task : DownloadTask}
  {pointer : Pointer} {path : String} {place : Place} {start middle after : Scene ρ}
  {seen later : List (Sighting ρ)}

section Files

section Keeps
variable {R : Disk → Disk → Prop} [Std.Refl R] [Trans R R R] (starts : ∀ disk, R disk disk.started)
  (kept : ∀ sighting ∈ seen, R sighting.before.disk sighting.after.disk)
include starts kept

theorem Opened.keeps {result : Except AttemptError Content}
    (opened : Opened services pointer path start seen result after) :
    R start.disk after.disk := by
  cases opened with
  | keyless => exact Std.Refl.refl _
  | unsealed => exact kept _ List.mem_cons_self
  | plain isSealed read => exact (openContent_disks starts isSealed).related read

theorem Delivered.keeps {result : Except AttemptError Unit}
    (delivered : Delivered services settings task pointer path start seen result after) :
    R start.disk after.disk := by
  cases delivered with
  | undelivered => exact kept _ List.mem_cons_self
  | unopened fetched opened =>
    obtain ⟨fetches, kept⟩ := List.forall_mem_cons.1 kept
    exact Trans.trans fetches (opened.keeps starts kept)
  | handed fetched opened inserted =>
    obtain ⟨fetches, kept⟩ := List.forall_mem_cons.1 kept
    obtain ⟨opens, inserts⟩ := List.forall_mem_append.1 kept
    exact Trans.trans fetches
      (Trans.trans (opened.keeps starts opens) (inserts _ List.mem_cons_self))

end Keeps

theorem Delivered.begins {result : Except AttemptError Unit}
    (delivered : Delivered services settings task pointer path start seen result after) :
    ∃ fetched opened rest, seen =
        ⟨.download path pointer.url settings.maxBytes settings.options fetched, start, opened⟩ ::
          rest ∧
      ∀ sighting ∈ rest, sighting.call.kind ≠ .download ∧ sighting.call.isIdle = false := by
  have opening {middle last : Scene ρ} {seen : List (Sighting ρ)}
      {result : Except AttemptError Content}
      (opened : Opened services pointer path middle seen result last) :
      ∀ sighting ∈ seen, sighting.call.kind ≠ .download ∧ sighting.call.isIdle = false := by
    cases opened with
    | keyless | plain => exact nofun
    | unsealed =>
      intro sighting listed
      obtain rfl := List.mem_singleton.1 listed
      exact ⟨nofun, rfl⟩
  cases delivered with
  | undelivered => exact ⟨_, _, _, rfl, nofun⟩
  | unopened fetched opened => exact ⟨_, _, _, rfl, opening opened⟩
  | handed fetched opened inserted =>
    refine ⟨_, _, _, rfl, fun sighting listed => ?_⟩
    rcases List.mem_append.1 listed with listed | listed
    · exact opening opened sighting listed
    · obtain rfl := List.mem_singleton.1 listed
      exact ⟨nofun, rfl⟩

theorem Delivered.spares {result : Except AttemptError Unit}
    (delivered : Delivered services settings task pointer path start seen result after)
    (spared : Spared place false seen) (away : start.disk.target path ≠ place) :
    start.disk.SameAt place after.disk := by
  refine delivered.keeps (fun _ => ⟨rfl, rfl⟩) (spared.sameAt fun sighting listed => ?_)
  obtain ⟨fetched, opened, rest, rfl, quiet⟩ := delivered.begins
  rcases List.mem_cons.1 listed with rfl | listed
  · exact decide_eq_false away
  · exact Spared.uses_of_quiet (quiet sighting listed).1 rfl

theorem removed_sameAt {file : ScratchFile} {last : Scene ρ}
    (cleared : (file.removed last).Alike after) (away : place ≠ last.disk.target file.path) :
    last.disk.SameAt place after.disk := by
  rw [cleared.disk]
  exact .of_touches (Disk.remove_keeps file.path last.disk) (by simpa using away)

/-- After an attempt a place that the calls leave alone is as it was before, unless it is that
of a scratch file which cannot be removed. -/
theorem Attempted.leaves {result : Except AttemptError Unit} {used : Bool}
    (attempted : Attempted services settings task start seen result after)
    (spared : Spared place used seen) :
    after.disk.file? place = start.disk.file? place ∨
      Stuck services settings task place start := by
  cases attempted with
  | unfound | absent => exact .inl (spared.1.file rfl)
  | unmarked found marked => exact .inl ((spared.2.1.file rfl).trans (spared.1.file rfl))
  | unmade found marked making =>
    obtain ⟨disk, failed, rfl⟩ := Step.onDisk_error making
    have makes := (ScratchFile.makeIn_error failed).files place nofun
    exact .inl (makes.trans ((spared.2.1.file rfl).trans (spared.1.file rfl)))
  | @ended pointer _ ready file making seen _ last _ found marked made delivered cleared =>
    obtain ⟨⟨-, finds⟩, ⟨-, marks⟩, spared⟩ := spared
    have noted : ready.disk.file? place = start.disk.file? place := (marks rfl).trans (finds rfl)
    obtain ⟨disk, makes, rfl⟩ := Step.onDisk_ok made
    obtain ⟨-, nothing, touches, -⟩ := ScratchFile.makeIn_ok makes
    have resides : Disk.SameDirectory disk last.disk :=
      delivered.keeps (R := Disk.SameDirectory) (fun _ => rfl) spared.workingDirectory
    have leads : last.disk.target file.path = ready.disk.target file.path := by
      rw [← touches.target, Disk.target, Disk.target, resides]
    by_cases own : last.disk.target file.path = place
    · have former : start.disk.file? place = none := by
        rw [← noted, ← own, leads]
        exact nothing
      rw [former, cleared.disk]
      change ((Disk.remove file.path).on last.disk).2.file? place = none ∨ _
      rcases removed : (Disk.remove file.path).on last.disk with ⟨error | _, gone⟩
      · rw [Disk.faultable_error removed, Disk.file?_started]
        cases held : last.disk.file? place with
        | none => exact .inl rfl
        | some content => exact .inr (.intro found marked made delivered own held removed)
      · rw [← own]
        exact .inl (Disk.remove_ok removed).1
    · have apart : ready.disk.target file.path ≠ place := leads ▸ own
      have makes : ready.disk.SameAt place disk :=
        .of_touches touches (by simpa using apart.symm)
      have delivers := delivered.spares spared (by rwa [makes.target])
      have removes := removed_sameAt cleared (Ne.symm own)
      exact .inl ((makes.trans (delivers.trans removes)).file.trans noted)

end Files

section Fresh

theorem isChain_of_quiet {R : Sighting ρ → Sighting ρ → Prop} (first : Sighting ρ)
    (quiet : ∀ sighting ∈ seen, sighting.call.kind ≠ .download)
    (holds : ∀ noted fetched, fetched.call.kind ≠ .download → R noted fetched) :
    (first :: seen).IsChain R := by
  induction seen generalizing first with
  | nil => exact .singleton _
  | cons next seen ih =>
    refine List.isChain_cons_cons.2 ⟨holds _ _ (quiet next List.mem_cons_self), ?_⟩
    exact ih next fun other listed => quiet other (List.mem_cons_of_mem _ listed)

theorem Attempted.fresh {result : Except AttemptError Unit}
    (attempted : Attempted services settings task start seen result after) :
    seen.IsChain fun noted fetched => ∀ destination url limit options result,
      fetched.call = .download destination url limit options result →
        Fresh settings task noted fetched destination := by
  cases attempted with
  | unfound | absent => exact .singleton _
  | unmarked | unmade => exact List.isChain_pair.2 nofun
  | ended found marked making delivered cleared =>
    obtain ⟨fetched, opened, rest, rfl, quiet⟩ := delivered.begins
    refine List.isChain_cons_cons.2 ⟨nofun, List.isChain_cons_cons.2 ⟨?_, ?_⟩⟩
    · rintro _ _ _ _ _ ⟨⟩
      obtain ⟨disk, made, rfl⟩ := Step.onDisk_ok making
      obtain ⟨number, path_eq, -, -, nothing⟩ := ScratchFile.makeIn_fresh made
      obtain ⟨-, -, touches, -⟩ := ScratchFile.makeIn_ok made
      refine ⟨rfl, made, ⟨number, path_eq, ?_⟩, ?_, Disk.makeIn_content made⟩
      · rw [path_eq, Disk.target_join (ScratchFile.isName number)]
      · rw [touches.target]
        exact nothing
    · refine isChain_of_quiet _ (fun sighting listed => (quiet sighting listed).1) ?_
      intro noted fetched other _ _ _ _ _ call
      rw [call] at other
      exact absurd rfl other

theorem Attempted.steady {result : Except AttemptError Unit}
    (attempted : Attempted services settings task start seen result after) :
    Steady true start.disk seen after.disk := by
  cases attempted with
  | unfound | absent => exact ⟨fun _ => rfl, fun _ => rfl⟩
  | unmarked => exact ⟨fun _ => rfl, fun _ => rfl, fun _ => rfl⟩
  | unmade => exact ⟨fun _ => rfl, fun _ => rfl, nofun⟩
  | ended found marked making delivered cleared =>
    obtain ⟨fetched, opened, rest, rfl, quiet⟩ := delivered.begins
    exact ⟨fun _ => rfl, fun _ => rfl, nofun,
      .of_busy _ _ fun sighting listed => (quiet sighting listed).2⟩

end Fresh

section Apart

/-- From one disk to another downloads went into files with names that were given out then. -/
structure Numbered (directory : String) (before after : Disk) (paths : List String) : Prop where
  later : before.Drawn after
  numbers : ∀ path ∈ paths, ∃ number, before.drawn ≤ number ∧ number < after.drawn ∧
    path = Path.join directory (ScratchFile.name number)
  nodup : paths.Nodup

namespace Numbered
variable {directory : String} {first second third : Disk} {paths more : List String}

theorem none (later : first.Drawn second) : Numbered directory first second [] :=
  ⟨later, nofun, .nil⟩

theorem append (h : Numbered directory first second paths)
    (h' : Numbered directory second third more) :
    Numbered directory first third (paths ++ more) := by
  have later : first.drawn ≤ second.drawn := h.later
  have later' : second.drawn ≤ third.drawn := h'.later
  refine ⟨later.trans later', fun path listed => ?_, ?_⟩
  · rcases List.mem_append.1 listed with listed | listed
    · obtain ⟨number, low, high, rfl⟩ := h.numbers path listed
      exact ⟨number, low, high.trans_le later', rfl⟩
    · obtain ⟨number, low, high, rfl⟩ := h'.numbers path listed
      exact ⟨number, later.trans low, high, rfl⟩
  · refine List.nodup_append.2 ⟨h.nodup, h'.nodup, fun path listed path' listed' => ?_⟩
    obtain ⟨number, -, high, rfl⟩ := h.numbers path listed
    obtain ⟨number', low, -, rfl⟩ := h'.numbers path' listed'
    intro same
    have := ScratchFile.number_of_join same
    omega

end Numbered

theorem destinations_append :
    destinations (seen ++ later) = destinations seen ++ destinations later :=
  List.filterMap_append

theorem destinations_of_quiet (quiet : ∀ sighting ∈ seen, sighting.call.kind ≠ .download) :
    destinations seen = [] := by
  refine List.filterMap_eq_nil_iff.2 fun sighting listed => ?_
  obtain ⟨call, before, after⟩ := sighting
  cases call with
  | download => exact absurd rfl (quiet _ listed)
  | findPointer | setState | insertContent | openSealed => rfl

theorem Attempted.numbered {result : Except AttemptError Unit}
    (attempted : Attempted services settings task start seen result after)
    (drawn : ∀ sighting ∈ seen, sighting.before.disk.Drawn sighting.after.disk) :
    Numbered settings.cacheDirectory start.disk after.disk (destinations seen) := by
  cases attempted with
  | unfound | absent => exact .none (drawn _ List.mem_cons_self)
  | unmarked =>
    exact .none (Nat.le_trans (drawn _ List.mem_cons_self)
      (drawn _ (List.mem_cons_of_mem _ List.mem_cons_self)))
  | unmade found marked making =>
    obtain ⟨disk, failed, rfl⟩ := Step.onDisk_error making
    have makes := (ScratchFile.makeIn_drawn settings.cacheDirectory).related failed
    exact .none (Nat.le_trans (drawn _ List.mem_cons_self)
      (Nat.le_trans (drawn _ (List.mem_cons_of_mem _ List.mem_cons_self)) makes))
  | @ended _ middle ready file making _ _ last _ found marked made delivered cleared =>
    have finds : start.disk.drawn ≤ middle.disk.drawn := drawn _ List.mem_cons_self
    have marks : middle.disk.drawn ≤ ready.disk.drawn :=
      drawn _ (List.mem_cons_of_mem _ List.mem_cons_self)
    have delivers : making.disk.Drawn last.disk :=
      delivered.keeps (fun _ => Nat.le_refl _) fun other listed =>
        drawn other (List.mem_cons_of_mem _ (List.mem_cons_of_mem _ listed))
    have removes : last.disk.drawn ≤ after.disk.drawn := by
      rw [cleared.disk]
      exact Disk.remove_drawn file.path last.disk
    obtain ⟨disk, makes, rfl⟩ := Step.onDisk_ok made
    obtain ⟨number, path_eq, low, high, -⟩ := ScratchFile.makeIn_fresh makes
    dsimp only [Disk.Drawn] at delivers
    obtain ⟨fetched, opened, rest, rfl, quiet⟩ := delivered.begins
    change Numbered _ _ _ (file.path :: destinations rest)
    rw [destinations_of_quiet fun sighting listed => (quiet sighting listed).1]
    refine ⟨?_, fun path listed => ?_, List.nodup_singleton _⟩
    · unfold Disk.Drawn
      omega
    · obtain rfl := List.mem_singleton.1 listed
      exact ⟨number, by omega, by omega, path_eq⟩

end Apart

section Driven

theorem Driven.append (first : Driven services settings task start seen middle)
    (second : Driven services settings task middle later after) :
    Driven services settings task start (seen ++ later) after := by
  induction first with
  | done => exact second
  | attempt attempted noted _ ih =>
    rw [List.append_assoc]
    exact .attempt attempted noted (ih second)
  | giveUp marked noted _ ih => exact .giveUp marked noted (ih second)

theorem Driven.single {result : Except AttemptError Unit}
    (attempted : Attempted services settings task start seen result middle)
    (noted : middle.Alike after) : Driven services settings task start seen after := by
  have driven := Driven.attempt attempted noted .done
  rwa [List.append_nil] at driven

theorem Executed.driven {outcome : Outcome AttemptError}
    (executed : Executed services settings task start seen outcome after) :
    Driven services settings task start seen after := by
  cases executed with
  | succeeded attempted noted | failed attempted noted => exact .single attempted noted
  | failedPermanently attempted noted marked logged =>
    exact .attempt attempted noted (.giveUp marked logged .done)

theorem Ran.driven {ending : JobEnding}
    (ran : Ran services settings task start seen ending after) :
    Driven services settings task start seen after := by
  induction ran with
  | succeeded attempted noted => exact .single attempted noted
  | givenUp attempted noted marked logged =>
    exact .attempt attempted noted (.giveUp marked logged .done)
  | again attempted noted _ ih => exact .attempt attempted noted ih

theorem Driven.leaves {used : Bool} (driven : Driven services settings task start seen after)
    (spared : Spared place used seen) :
    after.disk.file? place = start.disk.file? place ∨
      ∃ look ∈ seen, look.call.kind = .find ∧ Stuck services settings task place look.before := by
  induction driven generalizing used with
  | done => exact .inl rfl
  | attempt attempted noted _ ih =>
    obtain ⟨spared, used', later⟩ := spared.append
    rcases ih later with same | ⟨look, listed, kind, stuck⟩
    · rw [noted.disk] at same
      refine (attempted.leaves spared).imp same.trans fun stuck => ?_
      obtain ⟨found, middle, later, rfl⟩ := attempted.begins
      exact ⟨_, List.mem_append_left _ List.mem_cons_self, rfl, stuck⟩
    · exact .inr ⟨look, List.mem_append_right _ listed, kind, stuck⟩
  | giveUp marked noted _ ih =>
    refine (ih spared.2).imp (fun same => ?_) fun ⟨look, listed, stuck⟩ =>
      ⟨look, List.mem_cons_of_mem _ listed, stuck⟩
    rw [same, noted.disk]
    exact spared.1.file rfl

theorem Driven.begins (driven : Driven services settings task start seen after) :
    ∀ sighting ∈ seen.head?, sighting.call.kind ≠ .download := by
  cases driven with
  | done => exact nofun
  | attempt attempted =>
    obtain ⟨found, middle, later, rfl⟩ := attempted.begins
    rintro _ ⟨⟩
    exact nofun
  | giveUp =>
    rintro _ ⟨⟩
    exact nofun

theorem Driven.fresh (driven : Driven services settings task start seen after) :
    seen.IsChain fun noted fetched => ∀ destination url limit options result,
      fetched.call = .download destination url limit options result →
        Fresh settings task noted fetched destination := by
  have undownloaded {seen : List (Sighting ρ)} {start after : Scene ρ}
      (rest : Driven services settings task start seen after) (noted : Sighting ρ) :
      ∀ next ∈ seen.head?, ∀ destination url limit options result,
        next.call = .download destination url limit options result →
          Fresh settings task noted next destination := by
    intro next first _ _ _ _ _ call
    have kind := rest.begins next first
    rw [call] at kind
    exact absurd rfl kind
  induction driven with
  | done => exact .nil
  | attempt attempted _ rest ih =>
    exact List.isChain_append.2 ⟨attempted.fresh, ih, fun noted _ => undownloaded rest noted⟩
  | giveUp _ _ rest ih => exact List.isChain_cons.2 ⟨undownloaded rest _, ih⟩

theorem Driven.numbered (driven : Driven services settings task start seen after)
    (drawn : ∀ sighting ∈ seen, sighting.before.disk.Drawn sighting.after.disk) :
    Numbered settings.cacheDirectory start.disk after.disk (destinations seen) := by
  induction driven with
  | done => exact .none (Std.Refl.refl _)
  | attempt attempted noted _ ih =>
    rw [destinations_append]
    have first := attempted.numbered fun other listed =>
      drawn other (List.mem_append_left _ listed)
    rw [← noted.disk] at first
    exact first.append (ih fun other listed => drawn other (List.mem_append_right _ listed))
  | giveUp marked noted _ ih =>
    have first : Numbered settings.cacheDirectory _ _ [] := .none (drawn _ List.mem_cons_self)
    dsimp only at first
    rw [← noted.disk] at first
    exact first.append (ih fun other listed => drawn other (List.mem_cons_of_mem _ listed))

theorem Driven.steady (driven : Driven services settings task start seen after) :
    Steady true start.disk seen after.disk := by
  induction driven with
  | done => exact fun _ => rfl
  | attempt attempted noted _ ih =>
    rw [noted.disk] at ih
    exact attempted.steady.append ih
  | giveUp marked noted _ ih =>
    rw [noted.disk] at ih
    exact ⟨fun _ => rfl, ih⟩

theorem Driven.tidy (driven : Driven services settings task start seen after) :
    Tidy services settings task start seen after :=
  ⟨fun _ => driven.leaves, driven.begins, driven.fresh, fun drawn => (driven.numbered drawn).nodup,
    driven.steady⟩

end Driven

/-- A number of executions of a job, one after the other. -/
def executions (services : Services ρ) (settings : DownloadSettings) (task : DownloadTask) :
    Nat → StateM (Scene ρ) (List (Outcome AttemptError))
  | 0 => return []
  | count + 1 => do
    let outcome ← execute services settings task
    return outcome :: (← executions services settings task count)

theorem executions_watches (services : Services ρ) (settings : DownloadSettings)
    (task : DownloadTask) (count : Nat) : ∀ scene,
    Watches (executions services.watched settings task count)
      (executions services settings task count) scene
      fun seen _ after => Driven services settings task scene seen after := by
  induction count with
  | zero => exact fun _ => .silent (fun _ => rfl) .done
  | succ count ih =>
    intro scene
    refine .andThen ((execute_watches services settings task scene).mono ?_)
    intro seen outcome middle _ executed
    refine .andThen ((ih middle).mono ?_)
    intro later outcomes after _ driven
    apply Watches.silent (fun _ => rfl)
    rw [List.append_nil]
    exact executed.driven.append driven

/-- However often a job is executed, alone or driven by a worker, and whatever its services do,
no file of its own stays, each download has a new one, and without the store having taken
note of a download nothing is made. -/
theorem leaves_nothing (services : Services ρ) (settings : DownloadSettings)
    (task : DownloadTask) (scene : Scene ρ) :
    (∀ count, ∃ seen, executions services.watched settings task count (scene.watched []) =
        ((executions services settings task count scene).1,
          (executions services settings task count scene).2.watched seen) ∧
      Tidy services settings task scene seen (executions services settings task count scene).2) ∧
    ∀ backoff, Tidy services settings task scene (sightings services settings backoff task scene)
      (Worker.process backoff (downloadJob services settings task) scene).2 := by
  refine ⟨fun count => ?_, fun backoff => ?_⟩
  · obtain ⟨seen, same, driven⟩ := executions_watches services settings task count scene
    exact ⟨seen, same [], driven.tidy⟩
  · exact (ran_sightings services settings task backoff scene).driven.tidy

end DownloadJob

end AttachmentFetch
