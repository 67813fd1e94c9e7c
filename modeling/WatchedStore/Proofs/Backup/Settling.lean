import WatchedStore.Executor
import WatchedStore.Proofs.Files.Writing

/-! # Waiting for backups

Waiting for every backup writes their files one after the other, in the order in which they were
accepted. The newest one is written last, so nothing written in between can take its place: where its
file can be written when it is accepted, it is there in the end. Nothing is said here about names;
two backups of one path would be written over each other.
-/

namespace WatchedStore

open WatchedStore.Text

namespace Backups

variable {tree : FileTree} {path : Path} {place : Place}

/-- Ending the oldest backup writes the file that would be written first. -/
theorem finishOldest_foldl (backups : Backups) (writer : SnapshotWriter) (tree : FileTree) :
    (backups.finishOldest writer tree).1.running.foldl writer.run
        (backups.finishOldest writer tree).2 =
      backups.running.foldl writer.run tree := by
  rw [finishOldest, finish?]
  cases shape : backups.running with
  | nil =>
    dsimp only [List.getElem?_nil, Option.map_none]
    rw [shape]
  | cons backup rest => rfl

theorem length_running_finishOldest (backups : Backups) (writer : SnapshotWriter)
    (tree : FileTree) :
    (backups.finishOldest writer tree).1.running.length = backups.running.length - 1 := by
  rw [finishOldest, finish?]
  cases shape : backups.running with
  | nil =>
    dsimp only [List.getElem?_nil, Option.map_none]
    rw [shape]
    rfl
  | cons backup rest => rfl

/-- Waiting for every backup writes their files in the order in which they were accepted. -/
theorem settle_files (backups : Backups) (writer : SnapshotWriter) (tree : FileTree) :
    (backups.settle writer tree).2 = backups.running.foldl writer.run tree := by
  unfold settle
  generalize count : backups.running.length = remaining
  induction remaining generalizing backups tree with
  | zero =>
    rw [List.eq_nil_of_length_eq_zero count]
    rfl
  | succ remaining ih =>
    have fewer : (backups.finishOldest writer tree).1.running.length = remaining := by
      rw [length_running_finishOldest, count, Nat.add_sub_cancel]
    exact (ih _ _ fewer).trans (finishOldest_foldl backups writer tree)

/-- Writing a backup leaves a file that can be written one that can be written. -/
theorem resolveFile_run (writer : SnapshotWriter) (backup : RunningBackup)
    (resolved : tree.resolveFile path = .ok place) :
    (writer.run tree backup).resolveFile path = .ok place := by
  cases writer with
  | failing | panicking => exact resolved
  | file =>
    rw [SnapshotWriter.run, FileTree.writeSnapshot, FileTree.write]
    cases target : tree.resolveFile backup.ticket.path with
    | error failure => exact resolved
    | ok other =>
      obtain ⟨-, -, -, vacant⟩ := FileTree.resolveFile_eq_ok_iff.mp target
      exact FileTree.resolveFile_setEntry vacant resolved

theorem resolveFile_foldl_run (writer : SnapshotWriter) (running : List RunningBackup)
    (resolved : tree.resolveFile path = .ok place) :
    (running.foldl writer.run tree).resolveFile path = .ok place :=
  List.foldlRecOn (motive := fun tree => tree.resolveFile path = .ok place) running writer.run
    resolved fun _ resolved backup _ => resolveFile_run writer backup resolved

/-- A backup that has just been written is read. -/
theorem read_run_file {backup : RunningBackup}
    (resolved : tree.resolveFile backup.ticket.path = .ok place) :
    (SnapshotWriter.file.run tree backup).read backup.ticket.path =
      .ok (encode (Report.listing backup.snapshot)) := by
  rw [SnapshotWriter.run, FileTree.writeSnapshot, FileTree.write, resolved]
  exact FileTree.read_setEntry resolved

end Backups

namespace Executor

variable {executor : Executor}

/-- Waiting writes the newest backup behind all others, whether or not it had to wait for a slot. -/
theorem files_settle_backup (executor : Executor) (job : String) :
    (executor.backup job).2.settle.files =
      executor.writer.run (executor.backups.running.foldl executor.writer.run executor.files)
        ⟨(executor.backup job).1, executor.hub.store.snapshot⟩ := by
  let start :=
    if executor.backups.isFull then executor.backups.finishOldest executor.writer executor.files
    else (executor.backups, executor.files)
  have waited : start.1.running.foldl executor.writer.run start.2 =
      executor.backups.running.foldl executor.writer.run executor.files := by
    by_cases full : executor.backups.isFull
    · simp only [start, full, ↓reduceIte, Backups.finishOldest_foldl]
    · simp only [start, full, Bool.false_eq_true, ↓reduceIte]
  have settled : (executor.backup job).2.settle.files =
      (((executor.backup job).2.backups).settle executor.writer start.2).2 := rfl
  have running : (executor.backup job).2.backups.running =
      start.1.running ++ [⟨(executor.backup job).1, executor.hub.store.snapshot⟩] := rfl
  rw [settled, Backups.settle_files, running, List.foldl_concat, waited]

/-- Once every backup has ended, the file of the newest one lists the store. -/
theorem read_settle_backup (job : String) (writes : executor.writer = .file)
    (writable : ∃ written, executor.files.write (executor.backup job).1.path [] = .ok written) :
    (executor.backup job).2.settle.files.read (executor.backup job).1.path =
      .ok (encode (Report.listing executor.hub.store.snapshot)) := by
  obtain ⟨written, writable⟩ := writable
  rw [files_settle_backup, writes]
  cases target : executor.files.resolveFile (executor.backup job).1.path with
  | error failure =>
    rw [FileTree.write, target] at writable
    cases writable
  | ok place => exact Backups.read_run_file (Backups.resolveFile_foldl_run _ _ target)

end Executor

end WatchedStore
