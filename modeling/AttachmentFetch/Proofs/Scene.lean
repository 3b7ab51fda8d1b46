import AttachmentFetch.Proofs.Disk.Changes

/-! What steps leave of a scene: those that only log or wait, and those that only
touch files. -/
namespace AttachmentFetch

/-- The scenes differ at most in what has been logged and how late it is. -/
structure Scene.Alike (before after : Scene ρ) : Prop where
  disk : after.disk = before.disk
  rest : after.rest = before.rest

namespace Scene.Alike
variable {first second third : Scene ρ}

theorem refl (scene : Scene ρ) : Alike scene scene := ⟨rfl, rfl⟩

theorem trans (h : Alike first second) (h' : Alike second third) : Alike first third :=
  ⟨h'.disk.trans h.disk, h'.rest.trans h.rest⟩

theorem record (scene : Scene ρ) (level : Level) (message : String)
    (fields : List (String × String)) : Alike scene (scene.record level message fields) :=
  ⟨rfl, rfl⟩

theorem at_clock (scene : Scene ρ) (clock : Nat) : Alike scene { scene with clock } := ⟨rfl, rfl⟩

theorem elapse (scene : Scene ρ) (span : Duration) : Alike scene (scene.elapse span) :=
  at_clock scene _

end Scene.Alike

def Scene.withFaults (scene : Scene ρ) (faults : List (Option DiskFault)) : Scene ρ :=
  { scene with disk := { scene.disk with faults } }

def Scene.Disks (R : Disk → Disk → Prop) (before after : Scene ρ) : Prop :=
  R before.disk after.disk

namespace Scene.Disks
variable {R : Disk → Disk → Prop}

instance [Std.Refl R] : Std.Refl (Disks R : Scene ρ → Scene ρ → Prop) where
  refl scene := Std.Refl.refl scene.disk

instance [Trans R R R] : Trans (Disks R : Scene ρ → Scene ρ → Prop) (Disks R) (Disks R) where
  trans h h' := Trans.trans (r := R) (s := R) (t := R) h h'

theorem onDisk {call : Disk.Call α} (h : Step.Keeps R call) :
    Step.Keeps (Disks R : Scene ρ → Scene ρ → Prop) (Scene.onDisk call) := by
  intro scene
  rw [Step.on_onDisk]
  exact h scene.disk

end Scene.Disks

structure Scene.WritesFiles (paths : List String) (before after : Scene ρ) : Prop where
  rest : after.rest = before.rest
  disk : Disk.TouchesOnly paths before.disk after.disk

namespace Scene.WritesFiles
variable {paths : List String}

instance : Std.Refl (WritesFiles paths : Scene ρ → Scene ρ → Prop) where
  refl _ := ⟨rfl, Std.Refl.refl _⟩

theorem trans {first second third : Scene ρ} (h : WritesFiles paths first second)
    (h' : WritesFiles paths second third) : WritesFiles paths first third :=
  ⟨h'.rest.trans h.rest, h.disk.trans h'.disk⟩

instance : Trans (WritesFiles paths : Scene ρ → Scene ρ → Prop) (WritesFiles paths)
    (WritesFiles paths) where
  trans := trans

theorem onDisk {call : Disk.Call α} (h : Step.Keeps (Disk.TouchesOnly paths) call) :
    Step.Keeps (WritesFiles paths : Scene ρ → Scene ρ → Prop) (Scene.onDisk call) := by
  intro scene
  rw [Step.on_onDisk]
  exact ⟨rfl, h scene.disk⟩

end Scene.WritesFiles

end AttachmentFetch
