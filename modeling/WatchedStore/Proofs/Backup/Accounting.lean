import Mathlib.Algebra.BigOperators.Group.List.Lemmas
import Mathlib.Algebra.Ring.Nat
import Mathlib.Data.List.Dedup
import WatchedStore.Backups
import WatchedStore.Proofs.Store.Run

/-! # Backups over whole runs

A chronicle is a store with its backups and their files, together with what an observer writes down
during a run: the backups that were accepted, in order, and how many have ended. The slots, the
sequence number and the ordinals of the jobs are functions of what was accepted and of how many
ended; how a backup ended and what the store was asked meanwhile have no influence on them. What the
files hold is not the subject here.
-/

namespace WatchedStore

/-- An accepted backup: the job that asked for it, what the caller was told, and the pairs that the
store held at that moment. -/
structure Grant where
  job : String
  ticket : Ticket
  snapshot : List (String × String)
deriving DecidableEq, Repr

/-- What can happen to a store with backups. -/
inductive BackupEvent
  | call (call : Call)
  /-- A request that waits while every slot is taken: as long as it waits, nothing happens. -/
  | request (job : String)
  /-- A request that does not wait. -/
  | tryRequest (job : String)
  /-- The running backup at a position ends as its writer lets it. -/
  | complete (position : Nat) (writer : SnapshotWriter)
deriving DecidableEq, Repr

/-- A store with its backups and their files, the backups accepted so far, and how many ended. -/
structure Chronicle where
  hub : Hub
  backups : Backups
  files : FileTree
  accepted : List Grant
  completed : Nat
deriving DecidableEq, Repr

namespace Chronicle

/-- Nothing accepted and nothing ended yet. -/
def start (hub : Hub) (backups : Backups) (files : FileTree) : Chronicle :=
  ⟨hub, backups, files, [], 0⟩

/-- Writes down that a request was granted. -/
def grant (chronicle : Chronicle) (job : String) (granted : Ticket × Backups) : Chronicle :=
  { chronicle with
    backups := granted.2
    accepted := chronicle.accepted ++ [⟨job, granted.1, chronicle.hub.store.snapshot⟩] }

/-- One event of a run. -/
def step (chronicle : Chronicle) : BackupEvent → Chronicle
  | .call call => { chronicle with hub := (chronicle.hub.call call).2 }
  | .request job =>
    match chronicle.backups.request? chronicle.hub.store job with
    | none => chronicle
    | some granted => chronicle.grant job granted
  | .tryRequest job =>
    match chronicle.backups.tryRequest chronicle.hub.store job with
    | (.error _, backups) => { chronicle with backups := backups }
    | (.ok ticket, backups) => chronicle.grant job (ticket, backups)
  | .complete position writer =>
    match chronicle.backups.finish? position with
    | none => chronicle
    | some (backup, backups) =>
      { chronicle with
        backups := backups
        files := writer.run chronicle.files backup
        completed := chronicle.completed + 1 }

/-- The chronicle after a run of events. -/
def after (chronicle : Chronicle) (events : List BackupEvent) : Chronicle := events.foldl step chronicle

/-- The accepted backups of one job, in order. -/
def acceptedFor (chronicle : Chronicle) (job : String) : List Grant :=
  chronicle.accepted.filter fun grant => grant.job = job

/-- A request in front of a free slot, whether or not it would have waited. -/
def launch (chronicle : Chronicle) (job : String) : Chronicle :=
  chronicle.grant job (chronicle.backups.launch chronicle.hub.store job)

variable (chronicle : Chronicle) (job : String)

theorem step_request :
    chronicle.step (.request job) =
      if chronicle.backups.isFull then chronicle else chronicle.launch job := by
  unfold step Backups.request?
  cases chronicle.backups.isFull <;> rfl

theorem step_tryRequest :
    chronicle.step (.tryRequest job) =
      if chronicle.backups.isFull then chronicle else chronicle.launch job := by
  unfold step Backups.tryRequest
  cases chronicle.backups.isFull <;> rfl

end Chronicle

namespace Backups

theorem lookup_countOne (name other : String) (counts : List (String × Nat)) :
    ((countOne name counts).lookup other).getD 0 =
      (counts.lookup other).getD 0 + if other = name then 1 else 0 := by
  induction counts with
  | nil => by_cases same : other = name <;> simp [countOne, List.lookup_cons, beq_eq_decide, same]
  | cons entry rest ih =>
    obtain ⟨first, count⟩ := entry
    unfold countOne
    by_cases here : first = name
    · subst here
      by_cases same : other = first <;> simp [List.lookup_cons, beq_eq_decide, same]
    · by_cases same : other = first
      · simp [same, here]
      · simpa [List.lookup_cons, beq_eq_decide, same, here] using ih

theorem isFull_eq_false_iff {backups : Backups} :
    backups.isFull = false ↔ backups.active < backups.limit := by
  simp [isFull]

theorem finish?_eq_some_iff {backups next : Backups} {position : Nat} {backup : RunningBackup} :
    backups.finish? position = some (backup, next) ↔
      backups.running[position]? = some backup ∧
        next = { backups with
          active := backups.active - 1, running := backups.running.eraseIdx position } := by
  unfold finish?
  rw [Option.map_eq_some_iff]
  constructor
  · rintro ⟨found, present, same⟩
    obtain ⟨rfl, rfl⟩ := Prod.mk.inj same
    exact ⟨present, rfl⟩
  · rintro ⟨present, rfl⟩
    exact ⟨backup, present, rfl⟩

end Backups

namespace Chronicle

/-- The counts agree with what was accepted and with how many backups ended. -/
structure Accounts (directory : Path) (limit : Nat) (chronicle : Chronicle) : Prop where
  placed : chronicle.backups.directory = directory
  limited : chronicle.backups.limit = limit
  /-- Every taken slot has a backup that can end. -/
  taken : chronicle.backups.active = chronicle.backups.running.length
  /-- The taken slots are those of the backups that were accepted and have not ended. -/
  balanced : chronicle.backups.active + chronicle.completed = chronicle.accepted.length
  within : chronicle.backups.active ≤ limit
  counted : chronicle.backups.sequence = chronicle.accepted.length
  perJob : ∀ job, chronicle.backups.ordinal job = (chronicle.acceptedFor job).length
  numbered : ∀ n grant, chronicle.accepted[n]? = some grant → grant.ticket.sequence = n + 1
  /-- The accepted backups of a job go to the files of its ordinals, from one. -/
  named : ∀ job m grant, (chronicle.acceptedFor job)[m]? = some grant →
    grant.ticket.path = directory.join (Path.ofText (Backups.fileName job (m + 1)))

variable {directory : Path} {limit : Nat} {chronicle : Chronicle}

theorem accounts_start {backups : Backups} (created : Backups.create directory limit = .ok backups)
    (hub : Hub) (files : FileTree) : Accounts directory limit (start hub backups files) := by
  unfold Backups.create at created
  split at created
  · cases created
  · cases created
    exact ⟨rfl, rfl, rfl, rfl, Nat.zero_le limit, rfl, fun _ => rfl,
      (fun _ _ found => nomatch found), (fun _ _ _ found => nomatch found)⟩

theorem acceptedFor_launch (chronicle : Chronicle) (job other : String) :
    (chronicle.launch job).acceptedFor other =
      chronicle.acceptedFor other ++
        if job = other then [⟨job, (chronicle.backups.launch chronicle.hub.store job).1,
          chronicle.hub.store.snapshot⟩] else [] := by
  unfold acceptedFor launch grant
  rw [List.filter_append, List.filter_singleton]
  by_cases same : job = other <;> simp [same]

theorem Accounts.launch (accounts : Accounts directory limit chronicle)
    (room : chronicle.backups.active < limit) (job : String) :
    Accounts directory limit (chronicle.launch job) where
  placed := accounts.placed
  limited := accounts.limited
  taken := by
    change chronicle.backups.active + 1 = (chronicle.backups.running ++ [_]).length
    rw [List.length_append, accounts.taken, List.length_singleton]
  balanced := by
    change chronicle.backups.active + 1 + chronicle.completed = (chronicle.accepted ++ [_]).length
    rw [List.length_append, List.length_singleton, ← accounts.balanced]
    omega
  within := room
  counted := by
    change chronicle.backups.sequence + 1 = (chronicle.accepted ++ [_]).length
    rw [List.length_append, List.length_singleton, accounts.counted]
  perJob := by
    intro other
    have counted : (chronicle.launch job).backups.ordinal other =
        chronicle.backups.ordinal other + if other = job then 1 else 0 :=
      Backups.lookup_countOne job other chronicle.backups.ordinals
    rw [counted, accounts.perJob, acceptedFor_launch, List.length_append]
    by_cases same : job = other
    · simp [same]
    · simp [same, Ne.symm same]
  numbered := by
    intro n grant found
    change (chronicle.accepted ++ [_])[n]? = some grant at found
    rcases Nat.lt_or_ge n chronicle.accepted.length with old | new
    · rw [List.getElem?_append_left old] at found
      exact accounts.numbered n grant found
    · rw [List.getElem?_append_right new, List.getElem?_singleton] at found
      split at found
      · next last =>
        cases found
        change chronicle.backups.sequence + 1 = n + 1
        rw [accounts.counted]
        omega
      · cases found
  named := by
    intro other m grant found
    rw [acceptedFor_launch] at found
    rcases Nat.lt_or_ge m (chronicle.acceptedFor other).length with old | new
    · rw [List.getElem?_append_left old] at found
      exact accounts.named other m grant found
    · rw [List.getElem?_append_right new] at found
      split at found
      · next same =>
        subst same
        rw [List.getElem?_singleton] at found
        split at found
        · next last =>
          cases found
          have here : m = chronicle.backups.ordinal job := by rw [accounts.perJob]; omega
          rw [here, ← accounts.placed]
          rfl
        · cases found
      · cases found

/-- A completion frees a slot that was taken and changes no other count. -/
theorem step_complete (accounts : Accounts directory limit chronicle) {position : Nat}
    (running : position < chronicle.backups.running.length) (writer : SnapshotWriter) :
    (chronicle.step (.complete position writer)).backups.active + 1 = chronicle.backups.active ∧
      (chronicle.step (.complete position writer)).completed = chronicle.completed + 1 ∧
      (chronicle.step (.complete position writer)).accepted = chronicle.accepted ∧
      (chronicle.step (.complete position writer)).backups.sequence = chronicle.backups.sequence ∧
      ∀ job, (chronicle.step (.complete position writer)).backups.ordinal job =
        chronicle.backups.ordinal job := by
  have present := List.getElem?_eq_getElem running
  have finished := Backups.finish?_eq_some_iff.mpr ⟨present, rfl⟩
  have taken : 0 < chronicle.backups.active := by
    rw [accounts.taken]
    omega
  simp only [step, finished, Backups.ordinal]
  refine ⟨by omega, ?_⟩
  simp only [implies_true, and_self]

theorem Accounts.complete (accounts : Accounts directory limit chronicle) (position : Nat)
    (writer : SnapshotWriter) :
    Accounts directory limit (chronicle.step (.complete position writer)) := by
  rcases Nat.lt_or_ge position chronicle.backups.running.length with running | none
  · obtain ⟨freed, ended, -, -, -⟩ := step_complete accounts running writer
    have present := List.getElem?_eq_getElem running
    have finished := Backups.finish?_eq_some_iff.mpr ⟨present, rfl⟩
    have balanced := accounts.balanced
    have within := accounts.within
    have taken := accounts.taken
    simp only [step, finished] at freed ended ⊢
    refine ⟨accounts.placed, accounts.limited, ?_, ?_, ?_, accounts.counted, accounts.perJob,
      accounts.numbered, accounts.named⟩
    · rw [List.length_eraseIdx_of_lt running, taken]
    · dsimp only
      omega
    · exact Nat.le_trans (Nat.sub_le _ _) within
  · have absent : chronicle.backups.finish? position = Option.none := by
      unfold Backups.finish?
      rw [List.getElem?_eq_none none, Option.map_none]
    simp only [step, absent]
    exact accounts

/-- A request is granted exactly in front of a free slot. -/
theorem Accounts.isFull_iff (accounts : Accounts directory limit chronicle) :
    chronicle.backups.isFull = true ↔ chronicle.backups.active = limit := by
  have within := accounts.within
  rw [← Bool.not_eq_false, Backups.isFull_eq_false_iff, accounts.limited]
  omega

theorem Accounts.request (accounts : Accounts directory limit chronicle) (job : String) :
    Accounts directory limit
      (if chronicle.backups.isFull then chronicle else chronicle.launch job) := by
  split
  · exact accounts
  · next room =>
    have free := Backups.isFull_eq_false_iff.mp (Bool.eq_false_iff.mpr room)
    exact accounts.launch (accounts.limited ▸ free) job

theorem accounts_step (accounts : Accounts directory limit chronicle) (event : BackupEvent) :
    Accounts directory limit (chronicle.step event) := by
  cases event with
  | call call => exact { accounts with }
  | request job => exact step_request chronicle job ▸ accounts.request job
  | tryRequest job => exact step_tryRequest chronicle job ▸ accounts.request job
  | complete position writer => exact accounts.complete position writer

theorem accounts_after (accounts : Accounts directory limit chronicle) (events : List BackupEvent) :
    Accounts directory limit (chronicle.after events) := by
  induction events generalizing chronicle with
  | nil => exact accounts
  | cons event rest ih => exact ih (accounts_step accounts event)

/-- Each accepted backup belongs to one job, so the ordinals add up to their number. -/
theorem Accounts.sum_ordinals (accounts : Accounts directory limit chronicle) :
    ∃ jobs : List String, jobs.Nodup ∧ (∀ job ∉ jobs, chronicle.backups.ordinal job = 0) ∧
      (jobs.map chronicle.backups.ordinal).sum = chronicle.backups.sequence := by
  have ordinal_eq : ∀ job, chronicle.backups.ordinal job =
      (chronicle.accepted.map Grant.job).count job := by
    intro job
    rw [accounts.perJob, acceptedFor, List.count, List.countP_map, List.countP_eq_length_filter]
    congr 2
  refine ⟨(chronicle.accepted.map Grant.job).dedup, List.nodup_dedup _, ?_, ?_⟩
  · intro job absent
    rw [ordinal_eq, List.count_eq_zero]
    exact fun member => absent (List.mem_dedup.mpr member)
  · rw [List.map_congr_left fun job _ => ordinal_eq job, List.sum_map_count_dedup_eq_length,
      List.length_map, accounts.counted]

/-- A request that cannot wait is refused with the limit in front of full slots, which changes
nothing, and granted otherwise. -/
theorem Accounts.tryRequest_eq (accounts : Accounts directory limit chronicle) (job : String) :
    chronicle.backups.tryRequest chronicle.hub.store job =
      if chronicle.backups.active = limit then
        (.error (.backupCapacity limit), chronicle.backups)
      else
        (.ok (chronicle.backups.launch chronicle.hub.store job).1,
          (chronicle.backups.launch chronicle.hub.store job).2) := by
  unfold Backups.tryRequest
  simp only [accounts.isFull_iff, accounts.limited]

theorem Accounts.request?_eq (accounts : Accounts directory limit chronicle) (job : String) :
    chronicle.backups.request? chronicle.hub.store job =
      if chronicle.backups.active = limit then none
      else some (chronicle.backups.launch chronicle.hub.store job) := by
  unfold Backups.request?
  simp only [accounts.isFull_iff]

/-- After any run over any positive number of slots the counts agree with what was accepted and
what ended. The ordinals of the jobs add up to the sequence number. A request that cannot wait is
refused exactly in front of full slots, and then no count has changed; one that can wait waits there
and nowhere else. Whichever running backup ends next, and however, frees one slot and changes no
other count. Once all accepted backups have ended no slot is taken and the next request of either
kind is granted. -/
theorem counts_after_run {backups : Backups} (created : Backups.create directory limit = .ok backups)
    (hub : Hub) (files : FileTree) (events : List BackupEvent) :
    let chronicle := (start hub backups files).after events
    let active := chronicle.backups.active
    let answer job := chronicle.backups.tryRequest chronicle.hub.store job
    Accounts directory limit chronicle ∧
    (∃ jobs : List String, jobs.Nodup ∧ (∀ job ∉ jobs, chronicle.backups.ordinal job = 0) ∧
      (jobs.map chronicle.backups.ordinal).sum = chronicle.backups.sequence) ∧
    (∀ job, ((answer job).1 = .error (.backupCapacity limit) ↔ active = limit) ∧
      ((∃ ticket, (answer job).1 = .ok ticket) ↔ active < limit) ∧
      (active = limit → (answer job).2 = chronicle.backups) ∧
      (chronicle.backups.request? chronicle.hub.store job = none ↔ active = limit)) ∧
    (∀ position writer, position < active →
      let next := chronicle.step (.complete position writer)
      next.backups.active + 1 = active ∧ next.completed = chronicle.completed + 1 ∧
        next.accepted = chronicle.accepted ∧
        next.backups.sequence = chronicle.backups.sequence ∧
        ∀ job, next.backups.ordinal job = chronicle.backups.ordinal job) ∧
    (chronicle.completed = chronicle.accepted.length →
      active = 0 ∧ ∀ job, (∃ ticket, (answer job).1 = .ok ticket) ∧
        (chronicle.backups.request? chronicle.hub.store job).isSome) := by
  intro chronicle active answer
  have accounts : Accounts directory limit chronicle :=
    accounts_after (accounts_start created hub files) events
  have within : active ≤ limit := accounts.within
  have positive : 0 < limit := by
    unfold Backups.create at created
    split at created
    · cases created
    · omega
  have granted : ∀ job, (∃ ticket, (answer job).1 = .ok ticket) ↔ active < limit := by
    intro job
    simp only [answer, accounts.tryRequest_eq]
    split
    · next full => simp [active, full]
    · next room => simpa using Nat.lt_of_le_of_ne within room
  refine ⟨accounts, accounts.sum_ordinals, ?_, ?_, ?_⟩
  · intro job
    refine ⟨?_, granted job, ?_, ?_⟩
    · simp only [answer, accounts.tryRequest_eq]
      split
      · next full => simp [active, full]
      · next room => simpa using room
    · intro full
      simp only [answer, accounts.tryRequest_eq]
      rw [if_pos full]
    · rw [accounts.request?_eq]
      simp [active]
  · intro position writer running
    exact step_complete accounts (accounts.taken ▸ running) writer
  · intro allEnded
    have balanced := accounts.balanced
    have idle : active = 0 := by
      simp only [active]
      omega
    refine ⟨idle, fun job => ⟨(granted job).mpr (by omega), ?_⟩⟩
    rw [accounts.request?_eq, if_neg]
    · rfl
    · exact fun full => absurd (idle.symm.trans full) (Nat.ne_of_lt positive)

/-- One slot, one refusal, and a backup that breaks off: the slot is free again and the refusal has
left no trace. -/
theorem counts_after_run_of_one_slot :
    let backups : Backups := ⟨Path.ofText "d", 1, 0, 0, [], []⟩
    let events : List BackupEvent :=
      [.request "a", .tryRequest "b", .complete 0 .panicking, .request "a-1", .request "a"]
    let chronicle := (start (Hub.empty 4) backups FileTree.empty).after events
    chronicle.backups.active = 1 ∧ chronicle.backups.sequence = 2 ∧
    chronicle.backups.ordinal "b" = 0 ∧ Accounts (Path.ofText "d") 1 chronicle ∧
    (chronicle.backups.tryRequest chronicle.hub.store "b").1 = .error (.backupCapacity 1) := by
  intro backups events chronicle
  obtain ⟨accounts, -, answers, -⟩ :=
    @counts_after_run (Path.ofText "d") 1 backups rfl (Hub.empty 4) FileTree.empty events
  have taken : chronicle.backups.active = 1 := by decide +kernel
  exact ⟨taken, by decide +kernel, by decide +kernel, accounts, (answers "b").1.mpr taken⟩

end Chronicle

end WatchedStore
