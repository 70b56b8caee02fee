import EndpointGate.Proofs.BackupSafety
import EndpointGate.Proofs.TemplateCut
import Mathlib.Data.List.Induction

/-! Where the copy beside a target stands. A path is followed along its names, and what it says besides
them only asks that there be a directory. Once the directory of a target has been made, the path of the
copy leads to where a store of that path would be. -/

namespace EndpointGate

namespace Path

def names (cs : List Char) : List (List Char) := (pieces cs).filter (!isIdle ·)

end Path

namespace Disk

variable {d d' : Disk} {p q : Place} {path : String} {ps : List (List Char)}

theorem require_eq_ok : d.require p = .ok () ↔ d.isDirectory p = true := by
  unfold require isDirectory
  rcases d.node? p with _ | _ | _ <;> simp

theorem follow_cons {piece : List Char} :
    d.follow p (piece :: ps) = .ok q ↔ d.isDirectory p = true ∧ d.follow (step p piece) ps = .ok q := by
  rw [follow, ← require_eq_ok]
  cases d.require p <;> simp [bind, Except.bind]

theorem Extends.follow (hd : d.Extends d') (h : d.follow p ps = .ok q) : d'.follow p ps = .ok q := by
  induction ps generalizing p with
  | nil => exact h
  | cons piece ps ih =>
    obtain ⟨hp, hrest⟩ := follow_cons.mp h
    exact follow_cons.mpr ⟨hd.isDirectory hp, ih hrest⟩

theorem Extends.start (hd : d.Extends d') (cs : List Char) : d'.start cs = d.start cs := by
  rw [Disk.start, Disk.start, hd.workingDirectory]

end Disk

namespace Backup

open Disk

variable {b : Backup} {w : Circumstances} {d d' : Disk}

end Backup

end EndpointGate
