import WatchedStore.Daemon.Run
import WatchedStore.Job.Script
import WatchedStore.Main
import WatchedStore.Proofs.Backup.Accounting
import WatchedStore.Proofs.Backup.PointInTime
import WatchedStore.Proofs.Files.Writing
import WatchedStore.Proofs.Session.Interpreter
import WatchedStore.Proofs.Session.Workshop
import WatchedStore.Proofs.Store.Follower
import WatchedStore.Proofs.Store.Roster
import WatchedStore.Proofs.Text.Encoding
import WatchedStore.Session.Caller
import WatchedStore.Shell
import WatchedStore.Proofs.Session.Teardown
import WatchedStore.Proofs.Session.Notifications
import WatchedStore.Proofs.Session.Remote
import WatchedStore.Proofs.Job.Replay
import WatchedStore.Proofs.Wire.Notices
import WatchedStore.Proofs.Wire.Requests
import WatchedStore.Proofs.Store.Gates
import WatchedStore.Proofs.Store.Representation
import WatchedStore.Proofs.Job.Cut
import WatchedStore.Proofs.Job.Interleaving
import WatchedStore.Proofs.Store.Isolation
import WatchedStore.Proofs.Session.Dispatch
import WatchedStore.Proofs.Job.Counts
import WatchedStore.Proofs.Wire.Streams
import WatchedStore.Proofs.Session.Alignment
import WatchedStore.Proofs.Job.Reports
import WatchedStore.Proofs.Job.Composition
import WatchedStore.Proofs.Store.Commuting
import WatchedStore.Proofs.Shell.Arguments
import WatchedStore.Proofs.Job.Artifacts
import WatchedStore.Proofs.Store.Footprints
