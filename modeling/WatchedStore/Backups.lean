import WatchedStore.FileTree
import WatchedStore.Report
import WatchedStore.Store.Basic

/-! # Backups

A backup is accepted while fewer than a limit of them are being written. Accepting one takes a slot,
the next sequence number, the next ordinal of the job that asked, and a snapshot of the store; the
snapshot is written later to a file named for the job and the ordinal. However the writing ends, the
slot is free again afterwards.

Every snapshot is written by a thread of its own, and it is assumed that this thread can be started.
Where the system refuses one, the request fails after the sequence number and the ordinal are taken,
no file is written and the slot is free again; no function here has that outcome.
-/

namespace WatchedStore

open WatchedStore.Text

/-- What the caller of an accepted backup is told. -/
structure Ticket where
  /-- Counts the accepted backups, from one. -/
  sequence : Nat
  /-- The file that receives the snapshot. -/
  path : Path
deriving DecidableEq, Repr

/-- An accepted backup that is not finished yet. -/
structure RunningBackup where
  ticket : Ticket
  snapshot : List (String × String)
deriving DecidableEq, Repr

/-- How snapshots become files. -/
inductive SnapshotWriter
  /-- One pair per line. -/
  | file
  /-- Writing fails. -/
  | failing
  /-- Writing breaks off without an answer. -/
  | panicking
deriving DecidableEq, Repr

/-- Writes pairs to a file, one per line. -/
def FileTree.writeSnapshot (tree : FileTree) (path : Path) (pairs : List (String × String)) :
    Except IoFailure FileTree :=
  tree.write path (encode (Report.listing pairs))

/-- The files after a backup was written; one that failed leaves them as they were. -/
def SnapshotWriter.run (writer : SnapshotWriter) (tree : FileTree) (backup : RunningBackup) :
    FileTree :=
  match writer with
  | file =>
    match tree.writeSnapshot backup.ticket.path backup.snapshot with
    | .ok written => written
    | .error _ => tree
  | failing => tree
  | panicking => tree

/-- The backups of a store. -/
structure Backups where
  /-- The directory of the files. -/
  directory : Path
  /-- How many backups may be running. -/
  limit : Nat
  /-- How many slots are taken. -/
  active : Nat
  /-- How many backups were accepted. -/
  sequence : Nat
  /-- How many backups of each job were accepted. -/
  ordinals : List (String × Nat)
  /-- The backups being written, oldest first. -/
  running : List RunningBackup
deriving DecidableEq, Repr

/-- One more for a name in a list of counts. -/
def countOne (name : String) : List (String × Nat) → List (String × Nat)
  | [] => [(name, 1)]
  | (other, count) :: rest =>
    if other = name then (other, count + 1) :: rest else (other, count) :: countOne name rest

namespace Backups

/-- No backup yet. -/
def create (directory : Path) (limit : Nat) : Except Error Backups :=
  if limit = 0 then .error (.setting .backupLimit)
  else .ok ⟨directory, limit, 0, 0, [], []⟩

/-- How many backups of a job were accepted. -/
def ordinal (backups : Backups) (job : String) : Nat := (backups.ordinals.lookup job).getD 0

/-- The name of the file for the backup of a job with the given ordinal. -/
def fileName (job : String) (ordinal : Nat) : String := s!"{job}-{ordinal}.bck"

/-- The file for the backup of a job with the given ordinal. -/
def path (backups : Backups) (job : String) (ordinal : Nat) : Path :=
  backups.directory.join (Path.ofText (fileName job ordinal))

/-- Whether every slot is taken. -/
def isFull (backups : Backups) : Bool := backups.limit ≤ backups.active

/-- Accepts a backup. -/
def launch (backups : Backups) (store : Store) (job : String) : Ticket × Backups :=
  let sequence := backups.sequence + 1
  let ticket : Ticket := ⟨sequence, backups.path job (backups.ordinal job + 1)⟩
  (ticket,
    { backups with
      active := backups.active + 1
      sequence := sequence
      ordinals := countOne job backups.ordinals
      running := backups.running ++ [⟨ticket, store.snapshot⟩] })

/-- Asks for a backup that can wait: none while every slot is taken. -/
def request? (backups : Backups) (store : Store) (job : String) : Option (Ticket × Backups) :=
  if backups.isFull then none else some (backups.launch store job)

/-- Asks for a backup that cannot wait. -/
def tryRequest (backups : Backups) (store : Store) (job : String) :
    Except Error Ticket × Backups :=
  if backups.isFull then (.error (.backupCapacity backups.limit), backups)
  else
    let (ticket, backups) := backups.launch store job
    (.ok ticket, backups)

/-- Ends the running backup at a position of the list, which frees its slot. -/
def finish? (backups : Backups) (position : Nat) : Option (RunningBackup × Backups) :=
  backups.running[position]?.map fun backup =>
    (backup,
      { backups with active := backups.active - 1, running := backups.running.eraseIdx position })

/-- Ends the oldest running backup, if there is one, and writes its file. -/
def finishOldest (backups : Backups) (writer : SnapshotWriter) (tree : FileTree) :
    Backups × FileTree :=
  match backups.finish? 0 with
  | none => (backups, tree)
  | some (backup, backups) => (backups, writer.run tree backup)

/-- Ends a number of running backups, oldest first. -/
def finishMany (backups : Backups) (writer : SnapshotWriter) (tree : FileTree) :
    Nat → Backups × FileTree
  | 0 => (backups, tree)
  | count + 1 =>
    let (backups, tree) := backups.finishOldest writer tree
    finishMany backups writer tree count

/-- Ends every running backup, oldest first. -/
def settle (backups : Backups) (writer : SnapshotWriter) (tree : FileTree) : Backups × FileTree :=
  backups.finishMany writer tree backups.running.length

/-- Asks for a backup and waits for a slot if none is free, until the oldest running backup has
ended. -/
def request (backups : Backups) (store : Store) (job : String) (writer : SnapshotWriter)
    (tree : FileTree) : Ticket × Backups × FileTree :=
  let (backups, tree) :=
    if backups.isFull then backups.finishOldest writer tree else (backups, tree)
  let (ticket, backups) := backups.launch store job
  (ticket, backups, tree)

end Backups

end WatchedStore
