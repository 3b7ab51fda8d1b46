import AttachmentFetch.Store.Row

/-! The message database: two tables, the second of which refers to the first. -/
namespace AttachmentFetch

structure Database where
  migrated : Bool := false
  messages : Option (List MessageRow) := none
  attachments : Option (List AttachmentRow) := none
  deriving DecidableEq, Repr

inductive DatabaseError where
  | noSuchTable (name : String)
  | tableExists (name : String)
  | notUnique (column : String)
  | foreignKey
  | notADatabase
  deriving DecidableEq, Repr

def DatabaseError.message : DatabaseError → String
  | noSuchTable name => s!"no such table: {name}"
  | tableExists name => s!"table {name} already exists"
  | notUnique column => s!"UNIQUE constraint failed: {column}"
  | foreignKey => "FOREIGN KEY constraint failed"
  | notADatabase => "file is not a database"

def DatabaseError.chain (error : DatabaseError) : ErrorChain := .root error.message

namespace Database

def migrate (db : Database) : Except DatabaseError Database :=
  if db.migrated then .ok db
  else if db.messages.isSome then .error (.tableExists "message")
  else if db.attachments.isSome then .error (.tableExists "attachment")
  else .ok ⟨true, some [], some []⟩

def messageRows (db : Database) : Except DatabaseError (List MessageRow) :=
  match db.messages with
  | some rows => .ok rows
  | none => .error (.noSuchTable "message")

def attachmentRows (db : Database) : Except DatabaseError (List AttachmentRow) :=
  match db.attachments with
  | some rows => .ok rows
  | none => .error (.noSuchTable "attachment")

def insertMessage (db : Database) (row : MessageRow) : Except DatabaseError Database := do
  let rows ← db.messageRows
  return if rows.any (·.id = row.id) then db else { db with messages := some (rows ++ [row]) }

/-- Adds an attachment, whose id has to be new and whose message has to be there. -/
def insertAttachment (db : Database) (row : AttachmentRow) : Except DatabaseError Database := do
  let rows ← db.attachmentRows
  if rows.any (·.id = row.id) then throw (.notUnique "attachment.id")
  if !(db.messages.getD []).any (·.id = row.message) then throw .foreignKey
  return { db with attachments := some (rows ++ [row]) }

def findAttachment (db : Database) (id : AttachmentId) :
    Except DatabaseError (Option AttachmentRow) := do
  return (← db.attachmentRows).find? (·.id = id)

def updateAttachment (db : Database) (id : AttachmentId) (message : MessageId)
    (change : AttachmentRow → AttachmentRow) : Except DatabaseError (Nat × Database) := do
  let rows ← db.attachmentRows
  let chosen (row : AttachmentRow) : Bool := row.id = id && row.message = message
  return (rows.countP chosen,
    { db with attachments := some (rows.map fun row => if chosen row then change row else row) })

/-! What others may do to the database. -/

def deleteMessage (db : Database) (id : MessageId) : Database :=
  { db with
    messages := db.messages.map (·.filter (·.id ≠ id))
    attachments := db.attachments.map (·.filter (·.message ≠ id)) }

def deleteAttachment (db : Database) (id : AttachmentId) : Database :=
  { db with attachments := db.attachments.map (·.filter (·.id ≠ id)) }

def alter (db : Database) (id : AttachmentId) (change : AttachmentRow → AttachmentRow) :
    Database :=
  { db with
    attachments := db.attachments.map (·.map fun row => if row.id = id then change row else row) }

def moveAttachment (db : Database) (id : AttachmentId) (message : MessageId) : Database :=
  if (db.messages.getD []).any (·.id = message) then db.alter id ({ · with message }) else db

def dropAttachments (db : Database) : Database := { db with attachments := none }

def forgetMigrations (db : Database) : Database := { db with migrated := false }

end Database

end AttachmentFetch
