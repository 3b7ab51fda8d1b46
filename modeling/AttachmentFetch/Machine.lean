import AttachmentFetch.Backend
import AttachmentFetch.Disk.Directory

/-! The machine that the program runs on. -/
namespace AttachmentFetch

structure Machine where
  disk : Disk := {}
  /-- Nanoseconds since the machine came up. -/
  clock : Nat := 0
  log : List Event := []
  /-- What the database files hold, by their places; on the disk they show as empty. -/
  databases : List (Place × Database) := []
  network : Http.Network := .down
  dataDirectory : Option String := none
  /-- The date on which it came up. -/
  today : String := "1970-01-01"

namespace Machine

def onDisk (step : Step Disk ε α) : Step Machine ε α :=
  Step.within Machine.disk (fun disk machine => { machine with disk }) step

def database? (machine : Machine) (place : Place) : Option Database :=
  match machine.disk.node? place with
  | some (.file []) => some ((machine.databases.lookup place).getD {})
  | _ => none

def keep (machine : Machine) (place : Place) (database : Database) : Machine :=
  { machine with databases := (place, database) :: machine.databases.filter (·.1 ≠ place) }

def scene (machine : Machine) (place : Place) : Scene Backend where
  disk := machine.disk
  clock := machine.clock
  log := machine.log
  rest := { database := (machine.database? place).getD {}, network := machine.network }

def ofScene (place : Place) (scene : Scene Backend) (machine : Machine) : Machine :=
  { machine with
    disk := scene.disk
    clock := scene.clock
    log := scene.log
    network := scene.rest.network }.keep place scene.rest.database

def work (place : Place) (step : Step (Scene Backend) ε α) : Step Machine ε α :=
  Step.within (·.scene place) (ofScene place) step

def migrationName : String := "2026-01-05-000000_create_messages_and_attachments"

def migrate (place : Place) : Step Machine ErrorChain Unit := do
  match (← get).database? place with
  | none => throw (.root s!"Migration failed: {DatabaseError.notADatabase.message}")
  | some database =>
    match database.migrate with
    | .ok database => modify (·.keep place database)
    | .error error =>
      throw (.root s!"Migration failed: Failed to run {migrationName} with: {error.message}")

/-- The place of a database file, which is made if there is nothing. -/
def databasePlace (path : String) : Step Machine ErrorChain Place := do
  let unusable : ErrorChain :=
    (ErrorChain.root "unable to open database file").context
      s!"failed to create database pool for {path}"
  match (← get).disk.find path with
  | .error .noEntry =>
    let place ← (onDisk (Disk.createNew path)).mapError fun _ => unusable
    modify (·.keep place {})
    return place
  | .ok (.file _) => Step.reads fun machine => (machine.disk.locate path).mapError fun _ => unusable
  | _ => throw unusable

def openDatabase (path : String) : Step Machine ErrorChain Place :=
  (do
    let place ← databasePlace path
    migrate place
    return place : Step Machine ErrorChain Place).mapError
    (·.context s!"Failed to open database {path}")

end Machine

end AttachmentFetch
