import AttachmentFetch.Proofs.Job.Scratch
import AttachmentFetch.Proofs.Job.Success
import AttachmentFetch.Proofs.Job.Traces

/-! Scratch files that are held at the same time, in any directories, while others use the disk
as well. Each of them holds what has been done through its own path, no two of them meet, and
whoever gives one up takes no other file away. -/
namespace AttachmentFetch.Custody

/-- What is done to a disk on which scratch files are held. -/
inductive Deed where
  | made (file : ScratchFile)
  | written (file : ScratchFile) (content : Bytes)
  /-- The file was removed, and not by the one who holds it. -/
  | unlinked (file : ScratchFile)
  | closed (file : ScratchFile)
  | dropped (file : ScratchFile)
  | foreign (place : Place) (content : Bytes)
  /-- Names are given out anew, and those of files that were given up come again. -/
  | renumbered
  /-- Any of these calls failed. -/
  | failed
  deriving DecidableEq, Repr

namespace Deed

/-- What a deed leaves of a scratch file: its content, or no file; nothing is said by a deed
that has nothing to do with it. -/
def leaves (file : ScratchFile) : Deed → Option (Option Bytes)
  | made other => if other = file then some (some []) else none
  | written other content => if other = file then some (some content) else none
  | unlinked other | closed other | dropped other => if other = file then some none else none
  | foreign .. | renumbered | failed => none

def Makes (file : ScratchFile) (deed : Deed) : Prop :=
  deed = made file ∨ ∃ content, deed = written file content

/-- Takes a scratch file away. -/
def Takes (file : ScratchFile) (deed : Deed) : Prop :=
  deed = unlinked file ∨ deed = closed file ∨ deed = dropped file

theorem leaves_cases (file : ScratchFile) (deed : Deed) :
    (∃ content, deed.leaves file = some (some content)) ∧ deed.Makes file ∧ ¬deed.Takes file ∨
    deed.leaves file = some none ∧ ¬deed.Makes file ∧ deed.Takes file ∨
    deed.leaves file = none ∧ ¬deed.Makes file ∧ ¬deed.Takes file := by
  cases deed with
  | made other | written other | unlinked other | closed other | dropped other =>
    by_cases same : other = file <;> simp [leaves, Makes, Takes, same]
  | foreign | renumbered | failed => simp [leaves, Makes, Takes]

/-- What somebody else has left at a place. -/
def leavesAt (place : Place) : Deed → Option Bytes
  | foreign other content => if other = place then some content else none
  | _ => none

def Uses (file : ScratchFile) (deed : Deed) : Prop :=
  (∃ content, deed = written file content) ∨ deed.Takes file

namespace Uses
variable {file other : ScratchFile} {deed : Deed} (uses : deed.Uses file)
include uses

theorem leaves_other (apart : other ≠ file) : deed.leaves other = none := by
  rcases uses with ⟨_, rfl⟩ | rfl | rfl | rfl <;> exact if_neg apart.symm

theorem leavesAt (place : Place) : deed.leavesAt place = none := by
  rcases uses with ⟨_, rfl⟩ | rfl | rfl | rfl <;> rfl

theorem ne_made (file : ScratchFile) : deed ≠ .made file := by
  rcases uses with ⟨_, rfl⟩ | rfl | rfl | rfl <;> exact nofun

theorem ne_foreign (place : Place) (content : Bytes) : deed ≠ .foreign place content := by
  rcases uses with ⟨_, rfl⟩ | rfl | rfl | rfl <;> exact nofun

end Uses

end Deed

/-- The scratch files that are held after some deeds, the last of which comes first. -/
def held : List Deed → List ScratchFile
  | [] => []
  | .made file :: earlier => file :: held earlier
  | .closed file :: earlier | .dropped file :: earlier => (held earlier).filter (· ≠ file)
  | _ :: earlier => held earlier

/-- What a scratch file holds after the deeds: the last of them that concerns it decides. -/
def content? (file : ScratchFile) (history : List Deed) : Option Bytes :=
  (history.findSome? (·.leaves file)).join

/-- What others have left at a place, beginning with what had been there at the start. -/
def foreign? (start : Disk) (place : Place) (history : List Deed) : Option Bytes :=
  (history.findSome? (·.leavesAt place)).or (start.file? place)

/-- Scratch files are made, written through their paths, unlinked and given up, while others keep
away from those that are held. Names may come again, but not while a file of that name is held.
The calls may be made to fail, but a write does not break off in the middle, and the removal of
a file that is given up is spared. -/
inductive Run (start : Scene ρ) : List Deed → Scene ρ → Prop where
  | begun : Run start [] start
  | made {history scene after faults directory file} (run : Run start history scene)
      (making : (Scene.onDisk (ScratchFile.makeIn directory)).on (scene.withFaults faults) =
        (.ok file, after))
      (unheld : .renumbered ∈ history → ∀ other ∈ held history,
        scene.disk.target other.path ≠ scene.disk.target file.path) :
    Run start (.made file :: history) after
  | unmade {history scene after faults directory error} (run : Run start history scene)
      (making : (Scene.onDisk (ScratchFile.makeIn directory)).on (scene.withFaults faults) =
        (.error error, after)) :
    Run start (.failed :: history) after
  | written {history scene after faults file content} (run : Run start history scene)
      (mine : file ∈ held history)
      (writing : (Scene.onDisk (Disk.write file.path content)).on (scene.withFaults faults) =
        (.ok (), after)) :
    Run start (.written file content :: history) after
  | unwritten {history scene after file content error} (run : Run start history scene)
      (mine : file ∈ held history)
      (writing : (Scene.onDisk (Disk.write file.path content)).on (scene.withFaults []) =
        (.error error, after)) :
    Run start (.failed :: history) after
  | unlinked {history scene after faults file} (run : Run start history scene)
      (mine : file ∈ held history)
      (removing : (Scene.onDisk (Disk.remove file.path)).on (scene.withFaults faults) =
        (.ok (), after)) :
    Run start (.unlinked file :: history) after
  | notUnlinked {history scene after faults file error} (run : Run start history scene)
      (mine : file ∈ held history)
      (removing : (Scene.onDisk (Disk.remove file.path)).on (scene.withFaults faults) =
        (.error error, after)) :
    Run start (.failed :: history) after
  | closed {history scene after faults file} {result : Except ErrorChain Unit}
      (run : Run start history scene) (mine : file ∈ held history)
      (spared : faults.head?.join = none)
      (closing : file.finish.on (scene.withFaults faults) = (result, after)) :
    Run start (.closed file :: history) after
  | dropped {history scene after faults file} {result : Except ErrorChain Unit}
      (run : Run start history scene) (mine : file ∈ held history)
      (spared : faults.head?.join = none)
      (dropping : file.abandon.on (scene.withFaults faults) = (result, after)) :
    Run start (.dropped file :: history) after
  | foreign {history scene after faults path content} (run : Run start history scene)
      (elsewhere : ∀ file ∈ held history, scene.disk.target path ≠ scene.disk.target file.path)
      (writing : (Scene.onDisk (Disk.write path content)).on (scene.withFaults faults) =
        (.ok (), after)) :
    Run start (.foreign (scene.disk.target path) content :: history) after
  | notForeign {history scene after path content error} (run : Run start history scene)
      (elsewhere : ∀ file ∈ held history, scene.disk.target path ≠ scene.disk.target file.path)
      (writing : (Scene.onDisk (Disk.write path content)).on (scene.withFaults []) =
        (.error error, after)) :
    Run start (.failed :: history) after
  | renumbered {history scene} (run : Run start history scene) (drawn : Nat) :
    Run start (.renumbered :: history) { scene with disk := { scene.disk with drawn } }

/-! What the deeds say. -/

section History
variable {history : List Deed} {file : ScratchFile}

theorem content?_cons (deed : Deed) : content? file (deed :: history) =
    match deed.leaves file with
    | some left => left
    | none => content? file history := by
  unfold content?
  rw [List.findSome?_cons]
  cases deed.leaves file <;> rfl

theorem made_of_held (mine : file ∈ held history) : .made file ∈ history := by
  fun_induction held history with
  | case1 => cases mine
  | case2 other earlier ih =>
    rcases List.mem_cons.1 mine with rfl | mine
    · exact List.mem_cons_self
    · exact List.mem_cons_of_mem _ (ih mine)
  | case3 other earlier ih | case4 other earlier ih =>
    exact List.mem_cons_of_mem _ (ih (List.mem_of_mem_filter mine))
  | case5 deed earlier _ _ _ ih => exact List.mem_cons_of_mem _ (ih mine)

theorem held_of_uses {deed : Deed} (uses : deed.Uses file) :
    held (deed :: history) = held history ∨
      held (deed :: history) = (held history).filter (· ≠ file) ∧
        deed.leaves file = some none := by
  rcases uses with ⟨_, rfl⟩ | rfl | rfl | rfl
  · exact .inl rfl
  · exact .inl rfl
  · exact .inr ⟨rfl, if_pos rfl⟩
  · exact .inr ⟨rfl, if_pos rfl⟩

section Uses
variable {deed : Deed} {other : ScratchFile} (uses : deed.Uses file)
include uses

theorem held_before (theirs : other ∈ held (deed :: history)) : other ∈ held history := by
  rcases held_of_uses uses with holding | ⟨holding, -⟩ <;> rw [holding] at theirs
  · exact theirs
  · exact List.mem_of_mem_filter theirs

theorem held_still (apart : other ≠ file) (theirs : other ∈ held history) :
    other ∈ held (deed :: history) := by
  rcases held_of_uses uses with holding | ⟨holding, -⟩ <;> rw [holding]
  · exact theirs
  · exact List.mem_filter.2 ⟨theirs, decide_eq_true apart⟩

theorem leaves_of_given (mine : file ∈ held history) (given : file ∉ held (deed :: history)) :
    deed.leaves file = some none := by
  rcases held_of_uses uses with holding | ⟨-, taken⟩
  · rw [holding] at given
    exact absurd mine given
  · exact taken

end Uses

theorem foreign?_cons (start : Disk) (place : Place) (deed : Deed) :
    foreign? start place (deed :: history) =
      (deed.leavesAt place).or (foreign? start place history) := by
  unfold foreign?
  rw [List.findSome?_cons]
  cases deed.leavesAt place <;> rfl

theorem foreign?_eq_none {start : Disk} {place : Place} :
    foreign? start place history = none ↔
      (∀ content, .foreign place content ∉ history) ∧ start.file? place = none := by
  rw [foreign?, Option.or_eq_none_iff, List.findSome?_eq_none_iff]
  refine and_congr_left' ⟨fun none content among => ?_, fun never deed among => ?_⟩
  · have here := none _ among
    simp [Deed.leavesAt] at here
  · cases deed with
    | foreign other content =>
      exact if_neg fun same : other = place => never content (same ▸ among)
    | _ => rfl

/-- A scratch file is there when it has been made, or written to through its path, and nobody
has taken it away since. -/
def Stands (file : ScratchFile) (history : List Deed) : Prop :=
  ∃ later deed earlier, history = later ++ deed :: earlier ∧ deed.Makes file ∧
    ∀ other ∈ later, ¬other.Takes file

theorem stands_cons {deed : Deed} : Stands file (deed :: history) ↔
    deed.Makes file ∨ ¬deed.Takes file ∧ Stands file history := by
  constructor
  · rintro ⟨_ | ⟨latest, later⟩, made, earlier, same, makes, spare⟩
    · obtain ⟨rfl, rfl⟩ := List.cons.inj same
      exact .inl makes
    · obtain ⟨rfl, rfl⟩ := List.cons.inj same
      exact .inr ⟨spare deed List.mem_cons_self, later, made, earlier, rfl, makes,
        fun other among => spare other (List.mem_cons_of_mem _ among)⟩
  · rintro (makes | ⟨spares, later, made, earlier, rfl, makes, spare⟩)
    · exact ⟨[], deed, history, rfl, makes, nofun⟩
    · exact ⟨deed :: later, made, earlier, rfl, makes, List.forall_mem_cons.2 ⟨spares, spare⟩⟩

theorem content?_isSome : (content? file history).isSome = true ↔ Stands file history := by
  induction history with
  | nil =>
    refine ⟨nofun, ?_⟩
    rintro ⟨_ | _, _, _, same, -⟩ <;> cases same
  | cons deed earlier ih =>
    rw [content?_cons, stands_cons]
    rcases deed.leaves_cases file with ⟨⟨_, left⟩, does⟩ | ⟨left, does⟩ | ⟨left, does⟩ <;>
      simp [left, does, ih]

end History

/-! What is so all the time. -/

/-- The files on a disk are accounted for by the deeds that have been done. -/
structure Account (start : Disk) (history : List Deed) (disk : Disk) : Prop where
  workingDirectory : disk.workingDirectory = start.workingDirectory
  /-- As long as names are not given out anew, none comes again. -/
  named : ∀ file, .made file ∈ history → ∃ directory number,
    file.path = Path.join directory (ScratchFile.name number) ∧
      (.renumbered ∉ history → number < disk.drawn)
  apart : ∀ file ∈ held history, ∀ other, .made other ∈ history →
    (.renumbered ∈ history → other ∈ held history) →
    start.target file.path = start.target other.path → file = other
  vacant : ∀ file, .made file ∈ history → start.file? (start.target file.path) = none
  /-- Nobody else writes where a scratch file is held. -/
  spared : ∀ file ∈ held history, ∀ content, .foreign (start.target file.path) content ∉ history
  located : ∀ file, .made file ∈ history → disk.locate file.path = .ok (start.target file.path)
  own : ∀ file ∈ held history, disk.file? (start.target file.path) = content? file history
  released : ∀ file, .made file ∈ history → file ∉ held history → content? file history = none
  others : ∀ place, (∀ file ∈ held history, place ≠ start.target file.path) →
    disk.file? place = foreign? start place history

namespace Account
variable {start disk after : Disk} {history : List Deed} {file : ScratchFile}

theorem target (account : Account start history disk) (path : String) :
    disk.target path = start.target path := by
  rw [Disk.target, Disk.target, account.workingDirectory]

theorem elsewhere (account : Account start history disk) {path : String}
    (touches : Disk.TouchesOnly [path] disk after) {place : Place}
    (away : place ≠ start.target path) : after.file? place = disk.file? place :=
  touches.elsewhere (account.target path ▸ away)

theorem begun (start : Disk) : Account start [] start where
  workingDirectory := rfl
  named _ := nofun
  apart _ := nofun
  vacant _ := nofun
  spared _ := nofun
  located _ := nofun
  own _ := nofun
  released _ := nofun
  others _ _ := rfl

theorem plain (account : Account start history disk) (made : .made file ∈ history) :
    file.path.endsWith "/" = false := by
  obtain ⟨directory, number, path, -⟩ := account.named file made
  exact path ▸ Path.endsWith_join (ScratchFile.isName number) directory

theorem withFaults {scene : Scene ρ} (account : Account start history scene.disk)
    (faults : List (Option DiskFault)) : Account start history (scene.withFaults faults).disk where
  workingDirectory := account.workingDirectory
  named := account.named
  apart := account.apart
  vacant := account.vacant
  spared := account.spared
  located file made := by
    have touches : Disk.TouchesOnly [] scene.disk (scene.withFaults faults).disk :=
      .of_nodes [] rfl rfl
    exact Disk.locate_of_touches touches (account.plain made) (account.located file made)
  own := account.own
  released := account.released
  others := account.others

theorem step (account : Account start history disk) {deed : Deed} {paths : List String}
    (touches : Disk.TouchesOnly paths disk after)
    (drawn : disk.Drawn after ∨ deed = .renumbered) (unmade : ∀ file, deed ≠ .made file)
    (kept : ∀ file ∈ held (deed :: history), file ∈ held history)
    (spared : ∀ file ∈ held (deed :: history), ∀ content,
      deed ≠ .foreign (start.target file.path) content)
    (own : ∀ file ∈ held (deed :: history),
      after.file? (start.target file.path) = content? file (deed :: history))
    (released : ∀ file, .made file ∈ history → file ∉ held (deed :: history) →
      content? file (deed :: history) = none)
    (others : ∀ place, (∀ file ∈ held (deed :: history), place ≠ start.target file.path) →
      after.file? place = foreign? start place (deed :: history)) :
    Account start (deed :: history) after := by
  have earlier {file : ScratchFile} (made : .made file ∈ deed :: history) :
      .made file ∈ history :=
    (List.mem_cons.1 made).resolve_left fun same => unmade file same.symm
  exact {
    workingDirectory := touches.workingDirectory.trans account.workingDirectory
    named := fun file made => by
      obtain ⟨directory, number, path, given⟩ := account.named file (earlier made)
      refine ⟨directory, number, path, fun never => ?_⟩
      obtain ⟨latest, never⟩ := not_or.1 (mt List.mem_cons.2 never)
      exact Nat.lt_of_lt_of_le (given never) (drawn.resolve_right (Ne.symm latest))
    apart := fun file mine other made still => account.apart file (kept file mine) other
      (earlier made) fun anew => kept other (still (List.mem_cons_of_mem _ anew))
    vacant := fun file made => account.vacant file (earlier made)
    spared := fun file mine content among => (List.mem_cons.1 among).elim
      (fun same => spared file mine content same.symm)
      (account.spared file (kept file mine) content)
    located := fun file made => Disk.locate_of_touches touches (account.plain (earlier made))
      (account.located file (earlier made))
    own
    released := fun file made => released file (earlier made)
    others }

theorem failed (account : Account start history disk)
    (touches : Disk.TouchesOnly [] disk after) (drawn : disk.Drawn after) :
    Account start (.failed :: history) after := by
  refine account.step touches (.inl drawn) (fun _ => nofun) (fun _ => id) (fun _ _ _ => nofun)
    (fun file mine => ?_) (fun file made given => ?_) fun place away => ?_
  · rw [touches.files _ nofun]
    exact account.own file mine
  · exact account.released file made given
  · rw [touches.files _ nofun]
    exact account.others place away

theorem renumbered (account : Account start history disk) (drawn : Nat) :
    Account start (.renumbered :: history) { disk with drawn } :=
  account.step (.of_nodes [] rfl rfl) (.inr rfl) (fun _ => nofun) (fun _ => id)
    (fun _ _ _ => nofun) account.own account.released account.others

theorem foreign?_of_held (account : Account start history disk) (mine : file ∈ held history) :
    foreign? start (start.target file.path) history = none :=
  foreign?_eq_none.2 ⟨account.spared file mine, account.vacant file (made_of_held mine)⟩

theorem used (account : Account start history disk) {deed : Deed} (mine : file ∈ held history)
    (uses : deed.Uses file) (touches : Disk.TouchesOnly [file.path] disk after)
    (drawn : disk.Drawn after)
    (left : deed.leaves file = some (after.file? (start.target file.path))) :
    Account start (deed :: history) after := by
  have same {other : ScratchFile} (apart : other ≠ file) :
      content? other (deed :: history) = content? other history := by
    rw [content?_cons, uses.leaves_other apart]
  have now : content? file (deed :: history) = after.file? (start.target file.path) := by
    rw [content?_cons, left]
  have kept : ∀ other ∈ held (deed :: history), other ∈ held history :=
    fun _ => held_before uses
  have gone (given : file ∉ held (deed :: history)) :
      after.file? (start.target file.path) = none :=
    Option.some.inj (left.symm.trans (leaves_of_given uses mine given))
  refine account.step touches (.inl drawn) uses.ne_made kept (fun _ _ => uses.ne_foreign _)
    (fun other theirs => ?_) (fun other made given => ?_) fun place away => ?_
  · by_cases apart : other = file
    · rw [apart, now]
    · rw [same apart, account.elsewhere touches]
      · exact account.own other (kept other theirs)
      · exact mt (account.apart other (kept other theirs) file (made_of_held mine) fun _ => mine)
          apart
  · by_cases apart : other = file
    · subst apart
      rw [now, gone given]
    · rw [same apart]
      exact account.released other made (mt (held_still uses apart) given)
  · rw [foreign?_cons, uses.leavesAt, Option.none_or]
    by_cases here : place = start.target file.path
    · have given : file ∉ held (deed :: history) := fun mine => away file mine here
      rw [here, gone given, account.foreign?_of_held mine]
    · rw [account.elsewhere touches here]
      refine account.others place fun other theirs => ?_
      by_cases apart : other = file
      · exact apart ▸ here
      · exact away other (held_still uses apart theirs)

theorem foreign (account : Account start history disk) {path : String} {content : Bytes}
    (outside : ∀ file ∈ held history, start.target path ≠ start.target file.path)
    (touches : Disk.TouchesOnly [path] disk after) (drawn : disk.Drawn after)
    (written : after.file? (start.target path) = some content) :
    Account start (.foreign (start.target path) content :: history) after := by
  refine account.step touches (.inl drawn) (fun _ => nofun) (fun _ => id)
    (fun file mine _ same => outside file mine (Deed.foreign.inj same).1) (fun file mine => ?_)
    (fun file made given => account.released file made given) fun place away => ?_
  · rw [account.elsewhere touches (outside file mine).symm]
    exact account.own file mine
  · rw [foreign?_cons]
    by_cases here : start.target path = place
    · subst here
      rw [written, Deed.leavesAt, if_pos rfl, Option.some_or]
    · rw [account.elsewhere touches (Ne.symm here), Deed.leavesAt, if_neg here, Option.none_or]
      exact account.others place away

/-- As long as names do not come again, no scratch file that was made before is where a new
one is. -/
theorem new (account : Account start history disk) {directory : String}
    (making : (ScratchFile.makeIn directory).on disk = (.ok file, after))
    (never : .renumbered ∉ history) {other : ScratchFile} (made : .made other ∈ history) :
    start.target other.path ≠ start.target file.path := by
  intro same
  obtain ⟨number, path, later, -⟩ := ScratchFile.makeIn_fresh making
  obtain ⟨_, number', path', given⟩ := account.named other made
  rw [path, path'] at same
  have := given never
  have := ScratchFile.number_of_target same
  omega

theorem new_of_unheld (account : Account start history disk) {directory : String}
    (making : (ScratchFile.makeIn directory).on disk = (.ok file, after))
    (unheld : .renumbered ∈ history → ∀ other ∈ held history,
      start.target other.path ≠ start.target file.path)
    {other : ScratchFile} (made : .made other ∈ history)
    (still : .renumbered ∈ history → other ∈ held history) :
    start.target other.path ≠ start.target file.path := by
  by_cases anew : .renumbered ∈ history
  · exact unheld anew other (still anew)
  · exact account.new making anew made

theorem foreign?_of_nothing (account : Account start history disk)
    (nothing : disk.file? (disk.target file.path) = none)
    (away : ∀ other ∈ held history, start.target other.path ≠ start.target file.path) :
    foreign? start (start.target file.path) history = none := by
  rw [← account.others _ fun other theirs => (away other theirs).symm, ← account.target, nothing]

theorem made (account : Account start history disk) {directory : String}
    (making : (ScratchFile.makeIn directory).on disk = (.ok file, after))
    (unheld : .renumbered ∈ history → ∀ other ∈ held history,
      start.target other.path ≠ start.target file.path) :
    Account start (.made file :: history) after := by
  obtain ⟨-, nothing, touches, located⟩ := ScratchFile.makeIn_ok making
  obtain ⟨number, path, -, given, -⟩ := ScratchFile.makeIn_fresh making
  have content := (Disk.content?_eq_some.1 (Disk.makeIn_content making)).2
  have drawn := (ScratchFile.makeIn_drawn directory).related making
  have away {other : ScratchFile} (theirs : other ∈ held history) :
      start.target other.path ≠ start.target file.path :=
    account.new_of_unheld making unheld (made_of_held theirs) fun _ => theirs
  have same {other : ScratchFile} (apart : other ≠ file) :
      content? other (.made file :: history) = content? other history := by
    rw [content?_cons, Deed.leaves, if_neg apart.symm]
  obtain ⟨noForeign, vacant⟩ :=
    foreign?_eq_none.1 (account.foreign?_of_nothing nothing fun _ => away)
  have known {other : ScratchFile} (made : .made other ∈ Deed.made file :: history) :
      other = file ∨ .made other ∈ history :=
    (List.mem_cons.1 made).imp_left Deed.made.inj
  constructor
  case workingDirectory => exact touches.workingDirectory.trans account.workingDirectory
  case named =>
    intro other made
    rcases known made with rfl | made
    · exact ⟨directory, number, path, fun _ => given⟩
    · obtain ⟨directory, number, path, given⟩ := account.named other made
      refine ⟨directory, number, path, fun never => Nat.lt_of_lt_of_le (given ?_) drawn⟩
      exact mt (List.mem_cons_of_mem _) never
  case apart =>
    intro one mine other made still together
    by_cases newest : other = file
    · subst newest
      exact (List.mem_cons.1 mine).resolve_right fun mine => away mine together
    · have before := (known made).resolve_left newest
      have held (anew : .renumbered ∈ history) : other ∈ held history :=
        (List.mem_cons.1 (still (List.mem_cons_of_mem _ anew))).resolve_left newest
      rcases List.mem_cons.1 mine with rfl | mine
      · exact absurd together.symm (account.new_of_unheld making unheld before held)
      · exact account.apart one mine other before held together
  case vacant =>
    intro other made
    rcases known made with rfl | made
    · exact vacant
    · exact account.vacant other made
  case spared =>
    intro other mine bytes among
    rcases List.mem_cons.1 among with same | earlier
    · cases same
    · rcases List.mem_cons.1 mine with rfl | mine
      · exact noForeign bytes earlier
      · exact account.spared other mine bytes earlier
  case located =>
    intro other made
    rcases known made with rfl | made
    · rw [located, touches.target, account.target]
    · exact Disk.locate_of_touches touches (account.plain made) (account.located other made)
  case own =>
    intro other mine
    rcases List.mem_cons.1 mine with rfl | mine
    · rw [content?_cons, Deed.leaves, if_pos rfl, ← account.target, ← touches.target, content]
    · have apart := away mine
      rw [same (fun equal => apart (equal ▸ rfl)), account.elsewhere touches apart]
      exact account.own other mine
  case released =>
    intro other made given
    rcases known made with rfl | made
    · exact absurd List.mem_cons_self given
    · rw [same fun equal => given (equal ▸ List.mem_cons_self)]
      exact account.released other made fun mine => given (List.mem_cons_of_mem _ mine)
  case others =>
    intro place away
    rw [account.elsewhere touches (away file List.mem_cons_self)]
    exact account.others place fun other mine => away other (List.mem_cons_of_mem _ mine)

end Account

namespace Account
variable {history : List Deed} {file : ScratchFile}

theorem givenUp {start : Disk} {scene after : Scene ρ} {deed : Deed}
    (account : Account start history scene.disk) (mine : file ∈ held history)
    (spared : scene.disk.faults.head?.join = none) (takes : deed.Takes file)
    (cleared : (file.removed scene).Alike after) : Account start (deed :: history) after.disk := by
  have same : after.disk = ((Disk.remove file.path).on scene.disk).2 := cleared.disk
  have located := account.located file (made_of_held mine)
  rw [← account.target] at located
  have gone := ScratchFile.gone_of_spared located cleared spared
  refine account.used mine (.inr takes) ?_ ?_ ?_
  · rw [same]
    exact Disk.remove_keeps file.path scene.disk
  · rw [same]
    exact Disk.remove_drawn file.path scene.disk
  · rw [← account.target, gone]
    rcases takes with rfl | rfl | rfl <;> exact if_pos rfl

theorem removed_of_ended {scene after : Scene ρ} {result : Except ErrorChain Unit}
    (ended : file.finish.on scene = (result, after) ∨ file.abandon.on scene = (result, after)) :
    result = .ok () ∧ (file.removed scene).Alike after := by
  rcases ended with closing | dropping
  · obtain ⟨after, finishing, cleared⟩ := file.finish_on scene
    cases closing.symm.trans finishing
    exact ⟨rfl, cleared⟩
  · cases dropping.symm.trans (file.abandon_on scene)
    exact ⟨rfl, .refl _⟩

theorem of_run {start scene : Scene ρ} (run : Run start history scene) :
    Account start.disk history scene.disk := by
  induction run with
  | begun => exact .begun start.disk
  | @made _ _ _ faults _ _ _ making unheld account =>
    obtain ⟨disk, made, rfl⟩ := Step.onDisk_ok making
    simp only [account.target] at unheld
    exact (account.withFaults faults).made made unheld
  | @unmade _ _ _ faults _ _ _ making account =>
    obtain ⟨disk, failed, rfl⟩ := Step.onDisk_error making
    exact (account.withFaults faults).failed (ScratchFile.makeIn_error failed)
      ((ScratchFile.makeIn_drawn _).related failed)
  | @written _ _ _ faults file content _ mine writing account =>
    have account := account.withFaults faults
    obtain ⟨disk, wrote, rfl⟩ := Step.onDisk_ok writing
    have left := account.target file.path ▸ Disk.write_ok wrote
    refine account.used mine (.inl ⟨content, rfl⟩) ((Disk.write_keeps _ _).related wrote)
      ((Disk.write_drawn _ _).related wrote) ?_
    exact (if_pos rfl).trans (congrArg some left.symm)
  | unwritten _ mine writing account =>
    obtain ⟨disk, failed, rfl⟩ := Step.onDisk_error writing
    obtain rfl := Disk.write_error_of_calm rfl failed
    exact (account.withFaults []).failed (Std.Refl.refl _) (Std.Refl.refl _)
  | @unlinked _ _ _ faults file _ mine removing account =>
    have account := account.withFaults faults
    obtain ⟨disk, removed, rfl⟩ := Step.onDisk_ok removing
    have left := account.target file.path ▸ (Disk.remove_ok removed).1
    refine account.used mine (.inr (.inl rfl)) ((Disk.remove_keeps _).related removed)
      ((Disk.remove_drawn _).related removed) ?_
    exact (if_pos rfl).trans (congrArg some left.symm)
  | @notUnlinked _ _ _ faults _ _ _ mine removing account =>
    obtain ⟨disk, failed, rfl⟩ := Step.onDisk_error removing
    obtain rfl := Disk.faultable_error failed
    exact (account.withFaults faults).failed (Disk.touchesOnly_started _ []) (Std.Refl.refl _)
  | @closed _ scene _ faults file _ _ mine spared closing account =>
    obtain ⟨-, cleared⟩ := removed_of_ended (.inl closing)
    exact (account.withFaults faults).givenUp mine spared (.inr (.inl rfl)) cleared
  | @dropped _ scene _ faults file _ _ mine spared dropping account =>
    obtain ⟨-, cleared⟩ := removed_of_ended (.inr dropping)
    exact (account.withFaults faults).givenUp mine spared (.inr (.inr rfl)) cleared
  | @foreign _ _ _ faults path content _ elsewhere writing account =>
    obtain ⟨disk, wrote, rfl⟩ := Step.onDisk_ok writing
    have left := (account.withFaults faults).target path ▸ Disk.write_ok wrote
    simp only [account.target] at elsewhere ⊢
    exact (account.withFaults faults).foreign elsewhere ((Disk.write_keeps _ _).related wrote)
      ((Disk.write_drawn _ _).related wrote) left
  | notForeign _ elsewhere writing account =>
    obtain ⟨disk, failed, rfl⟩ := Step.onDisk_error writing
    obtain rfl := Disk.write_error_of_calm rfl failed
    exact (account.withFaults []).failed (Std.Refl.refl _) (Std.Refl.refl _)
  | renumbered _ drawn account => exact account.renumbered drawn

theorem content (account : Account start history disk) (made : .made file ∈ history)
    (alone : file ∈ held history ∨
      (∀ content, .foreign (start.target file.path) content ∉ history) ∧
        (.renumbered ∈ history → ∀ other ∈ held history,
          start.target other.path ≠ start.target file.path)) :
    disk.content? file.path = content? file history := by
  have located := account.located file made
  rw [← account.target] at located
  rw [Disk.content?_of_located located, account.target]
  by_cases mine : file ∈ held history
  · exact account.own file mine
  · obtain ⟨noForeign, unheld⟩ := alone.resolve_left mine
    rw [account.released file made mine, account.others, foreign?_eq_none]
    · exact ⟨noForeign, account.vacant file made⟩
    · intro other theirs same
      by_cases anew : .renumbered ∈ history
      · exact unheld anew other theirs same.symm
      · exact mine (account.apart other theirs file made (absurd · anew) same.symm ▸ theirs)

theorem files (account : Account start history disk) (place : Place) (bytes : Bytes) :
    disk.file? place = some bytes ↔
      (∃ file ∈ held history, disk.target file.path = place ∧ content? file history = some bytes) ∨
        foreign? start place history = some bytes := by
  by_cases anyones : ∃ file ∈ held history, start.target file.path = place
  · obtain ⟨file, mine, rfl⟩ := anyones
    rw [account.own file mine, account.foreign?_of_held mine]
    refine ⟨fun found => .inl ⟨file, mine, account.target _, found⟩, fun found => ?_⟩
    obtain ⟨other, theirs, here, found⟩ := found.resolve_right nofun
    rw [account.target] at here
    rwa [account.apart file mine other (made_of_held theirs) (fun _ => theirs) here.symm]
  · rw [account.others place fun file mine here => anyones ⟨file, mine, here.symm⟩]
    refine ⟨.inr, fun found => found.resolve_left ?_⟩
    rintro ⟨file, mine, here, -⟩
    exact anyones ⟨file, mine, account.target _ ▸ here⟩

end Account

/-! What one step does. -/

/-- The file of one path is the only one that can have changed. -/
def Alone (path : String) (before after : Disk) : Prop :=
  ∀ place, place ≠ before.target path → after.file? place = before.file? place

theorem alone_of_touches {path : String} {before after : Disk}
    (touches : Disk.TouchesOnly [path] before after) : Alone path before after :=
  fun _ away => touches.elsewhere away

/-- A new scratch file is empty. It lies in its directory itself, where nothing was. -/
structure New (directory : String) (file : ScratchFile) (before after : Disk) : Prop where
  nothing : before.node? (before.target file.path) = none
  empty : after.content? file.path = some []
  parent : after.node? (after.target directory) = some .directory
  inside : ∃ number, file.path = Path.join directory (ScratchFile.name number) ∧
    after.target file.path = after.target directory ++ [ScratchFile.name number]
  alone : Alone file.path before after

theorem new_of_made {directory : String} {file : ScratchFile} {disk after : Disk}
    (making : (ScratchFile.makeIn directory).on disk = (.ok file, after)) :
    New directory file disk after := by
  obtain ⟨number, path, -, -, nothing⟩ := ScratchFile.makeIn_fresh making
  exact {
    nothing
    empty := Disk.makeIn_content making
    parent := ScratchFile.makeIn_parent making
    inside := ⟨number, path, path ▸ Disk.target_join (ScratchFile.isName number) ..⟩
    alone := alone_of_touches (ScratchFile.makeIn_ok making).2.2.1 }

theorem Account.gone {start : Disk} {scene after : Scene ρ} {history : List Deed}
    {file : ScratchFile} (account : Account start history scene.disk) (mine : file ∈ held history)
    (spared : scene.disk.faults.head?.join = none) (cleared : (file.removed scene).Alike after) :
    after.disk.content? file.path = none := by
  have ended : Account start (.dropped file :: history) after.disk :=
    account.givenUp mine spared (.inr (.inr rfl)) cleared
  have made : .made file ∈ Deed.dropped file :: history :=
    List.mem_cons_of_mem _ (made_of_held mine)
  have unwritten : ∀ content, .foreign (start.target file.path) content ∉
      Deed.dropped file :: history := fun content among =>
    (List.mem_cons.1 among).elim nofun (account.spared file mine content)
  have unheld : ∀ other ∈ held (Deed.dropped file :: history),
      start.target other.path ≠ start.target file.path := by
    intro other theirs same
    obtain ⟨theirs, apart⟩ := List.mem_filter.1 theirs
    exact of_decide_eq_true apart
      (account.apart other theirs file (made_of_held mine) (fun _ => mine) same)
  rw [ended.content made (.inr ⟨unwritten, fun _ => unheld⟩), content?_cons, Deed.leaves,
    if_pos rfl]

/-- Scratch files never interfere. Each of them is there, with what was last written to it, as
long as nobody has taken it away since; whatever else is there was left by others. To give one up
does not fail and changes that file only, and a new one is empty and has its place to itself. -/
theorem never_interfere {start scene : Scene ρ} {history : List Deed}
    (run : Run start history scene) :
    (∀ file, .made file ∈ history →
      (file ∈ held history ∨
        (∀ content, .foreign (start.disk.target file.path) content ∉ history) ∧
          (.renumbered ∈ history → ∀ other ∈ held history,
            start.disk.target other.path ≠ start.disk.target file.path)) →
      scene.disk.content? file.path = content? file history ∧
        ((scene.disk.content? file.path).isSome = true ↔ Stands file history)) ∧
    (∀ place content, scene.disk.file? place = some content ↔
      (∃ file ∈ held history, scene.disk.target file.path = place ∧
        content? file history = some content) ∨
      foreign? start.disk place history = some content) ∧
    (∀ file ∈ held history, ∀ faults (result : Except ErrorChain Unit) (after : Scene ρ),
      file.finish.on (scene.withFaults faults) = (result, after) ∨
        file.abandon.on (scene.withFaults faults) = (result, after) →
      result = .ok () ∧ Alone file.path scene.disk after.disk ∧
        (faults.head?.join = none → after.disk.content? file.path = none)) ∧
    (∀ faults directory file after,
      (Scene.onDisk (ScratchFile.makeIn directory)).on (scene.withFaults faults) =
        (.ok file, after) →
      New directory file scene.disk after.disk ∧
        ∀ other ∈ held history,
          (.renumbered ∈ history → (scene.disk.content? other.path).isSome = true) →
          scene.disk.target other.path ≠ scene.disk.target file.path) ∧
    (∀ faults directory error after,
      (Scene.onDisk (ScratchFile.makeIn directory)).on (scene.withFaults faults) =
        (.error error, after) →
      ∀ place, after.disk.file? place = scene.disk.file? place) := by
  have account := Account.of_run run
  refine ⟨fun file made alone => ?_, account.files, fun file mine faults result after ended => ?_,
    fun faults directory file after making => ?_, fun faults directory error after making => ?_⟩
  · have content := account.content made alone
    exact ⟨content, by rw [content, content?_isSome]⟩
  · obtain ⟨quiet, cleared⟩ := Account.removed_of_ended ended
    have same : after.disk = ((Disk.remove file.path).on (scene.withFaults faults).disk).2 :=
      cleared.disk
    have alone := alone_of_touches (Disk.remove_keeps file.path (scene.withFaults faults).disk)
    rw [← same] at alone
    exact ⟨quiet, alone, fun spared => (account.withFaults faults).gone mine spared cleared⟩
  · obtain ⟨disk, made, rfl⟩ := Step.onDisk_ok making
    obtain ⟨nothing, empty, parent, inside, alone⟩ := new_of_made made
    refine ⟨⟨nothing, empty, parent, inside, alone⟩, fun other theirs there same => ?_⟩
    by_cases anew : .renumbered ∈ history
    · obtain ⟨content, there⟩ := Option.isSome_iff_exists.1 (there anew)
      have found := Disk.file?_eq_some.1 (Disk.content?_eq_some.1 there).2
      rw [same] at found
      exact nomatch found.symm.trans nothing
    · rw [account.target, account.target] at same
      exact (account.withFaults faults).new made anew (made_of_held theirs) same
  · obtain ⟨disk, failed, rfl⟩ := Step.onDisk_error making
    exact fun place => (ScratchFile.makeIn_error failed).files place nofun

theorem run_made :
    let start : Scene Unit := { disk := {}, rest := () }
    Run start [.made ⟨"cache/push-attachment0.tmp"⟩]
      ((Scene.onDisk (ScratchFile.makeIn "cache")).on (start.withFaults [])).2 := by
  intro start
  have making : ((Scene.onDisk (ScratchFile.makeIn "cache")).on (start.withFaults [])).1 =
      .ok ⟨"cache/push-attachment0.tmp"⟩ := by
    decide +kernel
  exact .made .begun (Prod.ext making rfl) nofun

theorem run_rewritten :
    let start : Scene Unit := { disk := {}, rest := () }
    let file : ScratchFile := ⟨"cache/push-attachment0.tmp"⟩
    ∃ scene, Run start [.written file [1], .unlinked file, .made file] scene ∧
      scene.disk.content? file.path = some [1] := by
  intro start file
  let there := ((Scene.onDisk (ScratchFile.makeIn "cache")).on (start.withFaults [])).2
  let gone := ((Scene.onDisk (Disk.remove file.path)).on (there.withFaults [])).2
  have removing : ((Scene.onDisk (Disk.remove file.path)).on (there.withFaults [])).1 = .ok () := by
    decide +kernel
  have writing :
      ((Scene.onDisk (Disk.write file.path [1])).on (gone.withFaults [])).1 = .ok () := by
    decide +kernel
  have unlinked : Run start [.unlinked file, .made file] gone :=
    .unlinked run_made (List.mem_singleton_self file) (Prod.ext removing rfl)
  exact ⟨_, .written unlinked (List.mem_singleton_self file) (Prod.ext writing rfl), by
    decide +kernel⟩

theorem run_again :
    let start : Scene Unit := { disk := {}, rest := () }
    let file : ScratchFile := ⟨"cache/push-attachment0.tmp"⟩
    ∃ scene, Run start [.made file, .renumbered, .dropped file, .made file] scene := by
  intro start file
  let there := ((Scene.onDisk (ScratchFile.makeIn "cache")).on (start.withFaults [])).2
  let gone := file.removed (there.withFaults [])
  let anew : Scene Unit := { gone with disk := { gone.disk with drawn := 0 } }
  have dropping :
      file.abandon.on (there.withFaults []) = ((.ok () : Except ErrorChain Unit), gone) :=
    file.abandon_on (there.withFaults [])
  have making : ((Scene.onDisk (ScratchFile.makeIn "cache")).on (anew.withFaults [])).1 =
      .ok file := by
    decide +kernel
  have dropped : Run start [.dropped file, .made file] gone :=
    .dropped run_made (List.mem_singleton_self file) rfl dropping
  exact ⟨_, .made (.renumbered dropped 0) (Prod.ext making rfl) (by decide +kernel)⟩

/-- That a scratch file has been unlinked does not say that it is not there; and to give one up
does not remove it if the call for that fails. -/
theorem unlinked_stands :
    (¬∀ (start scene : Scene Unit) (history : List Deed), Run start history scene →
      ∀ file ∈ held history, ((scene.disk.content? file.path).isSome = true ↔
        .made file ∈ history ∧ .unlinked file ∉ history ∧ .closed file ∉ history ∧
          .dropped file ∉ history)) ∧
    (¬∀ (start scene : Scene Unit) (history : List Deed), Run start history scene →
      ∀ file ∈ held history, ∀ faults (result : Except ErrorChain Unit) (after : Scene Unit),
        file.finish.on (scene.withFaults faults) = (result, after) →
          after.disk.content? file.path = none) ∧
    ¬∀ (start scene : Scene Unit) (history : List Deed), Run start history scene →
      ∀ file ∈ held history, ∀ faults (result : Except ErrorChain Unit) (after : Scene Unit),
        file.abandon.on (scene.withFaults faults) = (result, after) →
          after.disk.content? file.path = none := by
  refine ⟨fun claimed => ?_, fun claimed => ?_, fun claimed => ?_⟩
  · obtain ⟨scene, run, content⟩ := run_rewritten
    have stands := (claimed _ scene _ run _ (List.mem_singleton_self _)).1 (by rw [content]; rfl)
    exact stands.2.1 (by decide)
  · have gone := claimed _ _ _ run_made _ (List.mem_singleton_self _) [some ⟨.os 13, 0⟩] _ _ rfl
    revert gone
    decide +kernel
  · have gone := claimed _ _ _ run_made _ (List.mem_singleton_self _) [some ⟨.os 13, 0⟩] _ _ rfl
    revert gone
    decide +kernel

/-- What is written to an unlinked file is there, and is gone once the file is dropped; and a
file that bears the name of one that was dropped is as empty as any new one. -/
theorem never_interfere_rewritten :
    let start : Scene Unit := { disk := {}, rest := () }
    let file : ScratchFile := ⟨"cache/push-attachment0.tmp"⟩
    (∃ scene after, Run start [.written file [1], .unlinked file, .made file] scene ∧
      scene.disk.content? file.path = some [1] ∧
      file.abandon.on (scene.withFaults []) = ((.ok () : Except ErrorChain Unit), after) ∧
      after.disk.content? file.path = none) ∧
    ∃ scene, Run start [.made file, .renumbered, .dropped file, .made file] scene ∧
      scene.disk.content? file.path = some [] := by
  intro start file
  constructor
  · obtain ⟨scene, run, -⟩ := run_rewritten
    obtain ⟨stands, -, gone, -⟩ := never_interfere run
    have mine : file ∈ held [.written file [1], .unlinked file, .made file] :=
      List.mem_singleton_self file
    have dropping : file.abandon.on (scene.withFaults []) =
        ((.ok () : Except ErrorChain Unit), file.removed (scene.withFaults [])) :=
      file.abandon_on (scene.withFaults [])
    exact ⟨scene, _, run, (stands file (by decide) (.inl mine)).1, dropping,
      (gone file mine [] _ _ (.inr dropping)).2.2 rfl⟩
  · obtain ⟨scene, run⟩ := run_again
    obtain ⟨stands, -⟩ := never_interfere run
    have mine : file ∈ held [.made file, .renumbered, .dropped file, .made file] :=
      List.mem_cons_self
    exact ⟨scene, run, (stands file (by decide) (.inl mine)).1⟩

end AttachmentFetch.Custody
