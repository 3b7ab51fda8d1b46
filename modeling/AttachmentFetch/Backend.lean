import AttachmentFetch.Http.Network
import AttachmentFetch.Scene
import AttachmentFetch.Store.Database

/-! What the shipped services work on, besides the disk: a database and a network. -/
namespace AttachmentFetch

structure Backend where
  database : Database
  /-- What befalls the database calls to come, one after the other; later ones succeed. -/
  databaseFaults : List (Option ErrorChain) := []
  network : Http.Network
  deriving Repr

namespace Backend

/-- Lets the next fault happen, if it is one; otherwise makes a call on the
database, which changes nothing when it fails. -/
def query (call : Database → Except ErrorChain (α × Database)) :
    Step (Scene Backend) ErrorChain α :=
  Scene.onRest fun backend =>
    let next := { backend with databaseFaults := backend.databaseFaults.tail }
    match backend.databaseFaults with
    | some fault :: _ => (.error fault, next)
    | _ =>
      match call backend.database with
      | .ok (value, database) => (.ok value, { next with database })
      | .error error => (.error error, next)

def now (scene : Scene Backend) : Int64 := Int64.ofNat (scene.clock / 1000000)

end Backend

end AttachmentFetch
