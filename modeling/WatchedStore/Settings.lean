import WatchedStore.Error

/-! # Settings

The settings of an instance, their defaults, and the one rule they obey: a count or an interval of
zero would make no progress and is refused. The settings are checked in a fixed order, so of two
wrong ones the earlier is reported.
-/

namespace WatchedStore

/-- The settings of an instance. -/
structure Settings where
  /-- The directory that holds the job scripts. -/
  jobsDir : String
  /-- How many jobs run at the same time. -/
  maxJobThreads : Nat
  /-- The directory that receives the backups. -/
  backupDir : String
  /-- How many backups are written at the same time. -/
  maxBackups : Nat
  /-- How many subscribers a key may have. -/
  subscriberLimit : Nat
  /-- The address where clients announce themselves. -/
  listenAddr : String
  /-- How many sessions wait while every worker is busy. -/
  sessionBuffer : Nat
  /-- How many sessions are served at the same time. -/
  sessionWorkers : Nat
  /-- How many notifications a session queues. -/
  notificationQueue : Nat
  /-- Milliseconds between two looks at whether to stop. -/
  pollInterval : Nat
deriving DecidableEq, Repr

namespace Settings

/-- The settings of an instance that is not told otherwise. -/
def standard : Settings where
  jobsDir := "./jobs"
  maxJobThreads := 4
  backupDir := "./jobs"
  maxBackups := 2
  subscriberLimit := 100
  listenAddr := "127.0.0.1:7878"
  sessionBuffer := 8
  sessionWorkers := 8
  notificationQueue := 256
  pollInterval := 100

/-- The settings that must not be zero, with their names, in the order of the check. -/
def counts (settings : Settings) : List (String × Nat) :=
  [("max_job_threads", settings.maxJobThreads), ("max_backups", settings.maxBackups),
    ("subscriber_limit", settings.subscriberLimit), ("session_buffer", settings.sessionBuffer),
    ("session_workers", settings.sessionWorkers),
    ("notification_queue", settings.notificationQueue),
    ("poll_interval_ms", settings.pollInterval)]

/-- Refuses settings with which nothing would ever happen. -/
def validate (settings : Settings) : Except Error Unit :=
  match settings.counts.find? fun (_, count) => count = 0 with
  | some (name, _) => .error (.setting (.notPositive name))
  | none => .ok ()

theorem validate_eq_ok_iff {settings : Settings} :
    settings.validate = .ok () ↔ ∀ entry ∈ settings.counts, 0 < entry.2 := by
  unfold validate
  cases found : settings.counts.find? fun (_, count) => count = 0 with
  | none => simpa [List.find?_eq_none, Nat.pos_iff_ne_zero] using found
  | some entry =>
    have zero : entry.2 = 0 := by simpa using List.find?_some found
    have member := List.mem_of_find?_eq_some found
    simp only [reduceCtorEq, false_iff]
    intro positive
    exact absurd (positive entry member) (by simp [zero])

end Settings

end WatchedStore
