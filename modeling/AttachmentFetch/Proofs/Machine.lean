import AttachmentFetch.Program
import AttachmentFetch.Proofs.Store.Ledger

/-! What a machine keeps while the program is made ready. A configuration is judged before
anything is touched, and of the databases that are there none loses a row when one is opened. -/
namespace AttachmentFetch

structure Database.Retained (before after : Database) : Prop where
  messages : ∀ rows, before.messages = some rows → after.messages = some rows
  attachments : ∀ rows, before.attachments = some rows → after.attachments = some rows

namespace Database.Retained

theorem refl (db : Database) : Retained db db := ⟨fun _ => id, fun _ => id⟩

theorem of_migrate {before after : Database} (migrated : before.migrate = .ok after) :
    Retained before after := by
  unfold migrate at migrated
  split at migrated
  · cases migrated
    exact refl before
  split at migrated
  · cases migrated
  next noMessages =>
    split at migrated
    · cases migrated
    next noAttachments =>
      refine ⟨fun rows tables => absurd ?_ noMessages, fun rows tables => absurd ?_ noAttachments⟩
      · rw [tables]; rfl
      · rw [tables]; rfl

end Database.Retained

namespace Machine

/-- The databases of a machine are still there, with all of their rows. -/
def Retains (before after : Machine) : Prop :=
  ∀ place db, before.database? place = some db →
    ∃ db', after.database? place = some db' ∧ db.Retained db'

instance : Std.Refl Retains where
  refl _ _ db held := ⟨db, held, .refl db⟩

instance : Trans Retains Retains Retains where
  trans first second place db held := by
    obtain ⟨db', held', retained⟩ := first place db held
    obtain ⟨db'', held'', retained'⟩ := second place db' held'
    exact ⟨db'', held'', fun rows tables => retained'.messages rows (retained.messages rows tables),
      fun rows tables => retained'.attachments rows (retained.attachments rows tables)⟩

variable {machine : Machine} {place other : Place} {db : Database}

theorem database?_eq_some : machine.database? place = some db ↔
    machine.disk.file? place = some [] ∧ (machine.databases.lookup place).getD {} = db := by
  rw [Disk.file?_eq_some]
  unfold database?
  split
  next found => simp [found]
  next unfound => exact ⟨nofun, fun ⟨found, _⟩ => absurd found unfound⟩

theorem database?_keep_other (apart : other ≠ place) (db : Database) :
    (machine.keep place db).database? other = machine.database? other := by
  have unmet : (other == place) = false := by simpa using apart
  unfold database? keep
  dsimp only
  rw [List.lookup_cons, unmet, Disk.lookup_filter_ne, if_neg apart]

theorem retains_of_touches {paths : List String} {disk : Disk}
    (touches : Disk.TouchesOnly paths machine.disk disk)
    (away : ∀ place, machine.disk.file? place = some [] →
      ∀ path ∈ paths, place ≠ machine.disk.target path) :
    Retains machine { machine with disk } := by
  intro place db held
  obtain ⟨file, entry⟩ := database?_eq_some.1 held
  refine ⟨db, database?_eq_some.2 ⟨?_, entry⟩, .refl db⟩
  rw [touches.files place (away place file), file]

theorem onDisk_retains {step : Step Disk ε α} (keeps : Step.Keeps (Disk.TouchesOnly []) step) :
    Step.Keeps Retains (onDisk step) := by
  intro machine
  rw [onDisk, Step.on_within]
  exact retains_of_touches (keeps machine.disk) fun _ _ => List.forall_mem_nil _

theorem databasePlace_retains (path : String) : Step.Keeps Retains (databasePlace path) := by
  intro machine
  rw [databasePlace, Step.bind_of_ok (Step.on_get machine)]
  split
  · rcases created : (Disk.createNew path).on machine.disk with ⟨error | place, disk⟩
    · have same : (onDisk (Disk.createNew path)).on machine =
          (.error error, { machine with disk }) := by
        rw [onDisk, Step.on_within, created]
      rw [Step.bind_of_error (Step.mapError_of_error _ same), Disk.faultable_error created]
      exact retains_of_touches (Disk.touchesOnly_started machine.disk []) fun _ _ =>
        List.forall_mem_nil _
    · have same : (onDisk (Disk.createNew path)).on machine =
          (.ok place, { machine with disk }) := by
        rw [onDisk, Step.on_within, created]
      rw [Step.bind_of_ok (Step.mapError_of_ok _ same)]
      obtain ⟨rfl, nothing, -⟩ := Disk.createNew_ok created
      -- The new file lies where no database can have been.
      have away : ∀ place, machine.disk.file? place = some [] →
          place ≠ machine.disk.target path := by
        rintro _ held rfl
        rw [Disk.file?_eq_some, nothing] at held
        cases held
      intro place db held
      obtain ⟨db', held', retained⟩ := retains_of_touches
        ((Disk.createNew_keeps path).related created)
        (fun place held path' listed => by
          rw [List.mem_singleton.1 listed]; exact away place held) place db held
      refine ⟨db', ?_, retained⟩
      have apart := away place (database?_eq_some.1 held).1
      exact (database?_keep_other apart {}).trans held'
  · exact Std.Refl.refl machine
  · exact Std.Refl.refl machine

theorem migrate_retains (place : Place) : Step.Keeps Retains (migrate place) := by
  intro machine
  rw [migrate, Step.bind_of_ok (Step.on_get machine)]
  cases found : machine.database? place with
  | none => exact Std.Refl.refl machine
  | some database =>
    dsimp only
    cases migrated : database.migrate with
    | error => exact Std.Refl.refl machine
    | ok database' =>
      intro other db held
      change ∃ db', (machine.keep place database').database? other = some db' ∧ _
      by_cases same : other = place
      · subst same
        obtain rfl : database = db := Option.some.inj (found.symm.trans held)
        exact ⟨database', database?_keep found database', .of_migrate migrated⟩
      · exact ⟨db, (database?_keep_other same database').trans held, .refl db⟩

theorem openDatabase_retains (path : String) : Step.Keeps Retains (openDatabase path) :=
  .mapError _ (.bind (databasePlace_retains path) fun place =>
    .bind (migrate_retains place) fun _ => .pure place)

end Machine

namespace Program
variable {path : Bytes} {config : Config} {machine : Machine}

theorem makeParent_retains (path : String) : Step.Keeps Machine.Retains (makeParent path) := by
  unfold makeParent
  split
  · exact .pure ()
  next parent _ =>
    exact .mapError _ (Machine.onDisk_retains (Disk.makeDirectories_keeps [] parent))

theorem wireAt_retains (path : Bytes) (config : Config) :
    Step.Keeps Machine.Retains (wireAt path config) :=
  .bind (fun _ => Std.Refl.refl _) fun plan => .bind (makeParent_retains plan.databasePath) fun _ =>
    .bind (Machine.openDatabase_retains plan.databasePath) fun _ => .pure _

theorem wireAt_of_unplanned {error : ErrorChain} (unplanned : planAt path config = .error error) :
    (wireAt path config).on machine = (.error error, machine) := by
  rw [wireAt, Step.bind_of_error]
  rw [Step.on_reads, unplanned]

end Program

end AttachmentFetch
