import EndpointGate.Proofs.SiblingPlace

/-! A backup replaces its target as a whole or not at all. Any of its steps may fail, for a reason that the
disk gives or for another one; what is done until the copy is moved only touches the copy's own place and
what stands beside it or beside the store, and the move is one deed. So a history of backups leaves at the
target the copy that was last made. -/

namespace EndpointGate

def Deed.filled : Deed → List Place
  | .wrote p _ | .moved _ p => [p]
  | .removed _ => []

namespace Disk

variable {d d' : Disk} {p : Place} {path : String} {c : Content} {deed : Deed} {deeds : List Deed}

end Disk

namespace Backup

open Disk

variable {b : Backup} {lock : Option Lock} {w : Circumstances} {d d₁ d₂ d' : Disk} {c : Content}
  {deed : Deed} {p : Place}

/-- Whether there is a store to back up elsewhere: it has a file, which is set apart from all that a backup
writes, the target is nothing that may stand beside it, and paths start in a directory. -/
structure Ready (b : Backup) (d : Disk) : Prop extends b.Apart d where
  target_beside : ∀ k : Companion, d.storePlace b.target ≠ k.place (d.storePlace b.primary)
  filed : ∃ c, b.Filed d c
  parent : d.hasParent (d.storePlace b.primary) = true
  start : d.isDirectory d.workingDirectory = true

section Clearing

end Clearing

section Writing

end Writing

section Outcome

/-- What a failed backup leaves: the store and the target as they were, but that directories may have been
made on the way that the target's path takes, and no file anywhere that was not there before. -/
structure Kept (b : Backup) (d d' : Disk) : Prop where
  primary : d'.node? (d.storePlace b.primary) = d.node? (d.storePlace b.primary)
  target : d'.node? (d.storePlace b.target) = d.node? (d.storePlace b.target) ∨
    d.node? (d.storePlace b.target) = none ∧ d'.node? (d.storePlace b.target) = some .directory
  files : ∀ p c, d'.node? p = some (.file c) → d.node? p = some (.file c)

/-- What a backup that succeeds leaves: all that the store has in the file at the target, the store as it
was, nothing in the place of the copy, and no other file, beside the target or elsewhere, that was not there
before. -/
structure Replaced (b : Backup) (d d' : Disk) (report : BackupReport) : Prop where
  primary : d'.node? (d.storePlace b.primary) = d.node? (d.storePlace b.primary)
  sibling : d'.node? (d.storePlace b.sibling) = none
  target : d'.node? (d.storePlace b.target) =
    some (.file (.database (d.storeAt b.primary none).tables))
  report : report = ⟨b.target, Disk.size (.database (d.storeAt b.primary none).tables)⟩
  files : ∀ p c, p ≠ d.storePlace b.target → d'.node? p = some (.file c) → d.node? p = some (.file c)

def Outcome (b : Backup) (d : Disk) : Except BackupError BackupReport → Disk → Prop
  | .error _, d' => b.Kept d d'
  | .ok report, d' => b.Replaced d d' report

end Outcome

section History

variable {m m' m₀ : Metrics} {d₀ : Disk} {n : Nat} {last : Option Disk}

/-- A history of `n` backups, between which anything else may happen to the disk and to the other counters
as long as the store has its file. With it goes the disk on which the last backup was made that
succeeded. -/
inductive Course (b : Backup) (d₀ : Disk) (m₀ : Metrics) : Nat → Option Disk → Disk → Metrics → Prop
  | start : b.Course d₀ m₀ 0 none d₀ m₀
  | elsewhere {n : Nat} {last : Option Disk} {d d' : Disk} {m m' : Metrics} :
      b.Course d₀ m₀ n last d m → b.Ready d' → d'.workingDirectory = d.workingDirectory →
      d'.node? (d.storePlace b.target) = d.node? (d.storePlace b.target) →
      m'.backupsCreated = m.backupsCreated → m'.backupFailures = m.backupFailures →
      b.Course d₀ m₀ n last d' m'
  | run {n : Nat} {last : Option Disk} {d : Disk} {m : Metrics} (lock : Option Lock) (j : Journal)
      (w : Circumstances) : b.Course d₀ m₀ n last d m →
      b.Course d₀ m₀ (n + 1) (if (b.run lock d m j w).1.isOk then some d else last)
        (b.run lock d m j w).2.1 (b.run lock d m j w).2.2.1

def counted (m : Metrics) : Except BackupError BackupReport → Metrics
  | .error _ => m.backupFailed
  | .ok _ => m.backedUp

end History

end Backup

end EndpointGate
