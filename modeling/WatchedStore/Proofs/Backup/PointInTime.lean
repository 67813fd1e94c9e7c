import WatchedStore.Executor
import WatchedStore.Proofs.Backup.Accounting
import WatchedStore.Proofs.Backup.Naming

/-! # Backups as of the moment they were accepted

A backup takes its snapshot when it is accepted and is written later. What the store is asked in
between cannot reach the snapshot, and no other backup is written to the same place, so however the
completions are ordered, each file ends up with the pairs of the moment of its request. The runs here
end every backup with the writer of files, on a tree in which the files of the accepted backups can
be created; what a failing writer leaves behind is not the subject here.
-/

namespace WatchedStore

open WatchedStore.Text

namespace BackupEvent

/-- The completions write files, and no name of a job leads into another directory. -/
def IsPlain : BackupEvent → Prop
  | call _ => True
  | request job => '/' ∉ job.toList
  | tryRequest job => '/' ∉ job.toList
  | complete _ writer => writer = .file

instance : (event : BackupEvent) → Decidable event.IsPlain
  | call _ => isTrue trivial
  | request job => inferInstanceAs (Decidable ('/' ∉ job.toList))
  | tryRequest job => inferInstanceAs (Decidable ('/' ∉ job.toList))
  | complete _ writer => inferInstanceAs (Decidable (writer = .file))

/-- The requests for a job. -/
def Asks (job : String) (event : BackupEvent) : Prop := event = .request job ∨ event = .tryRequest job

/-- What the store was asked during a run. -/
def calls (events : List BackupEvent) : List Call :=
  events.filterMap fun
    | .call asked => some asked
    | _ => none

end BackupEvent

open BackupEvent (calls)

namespace Grant

/-- The backup as it runs. -/
def running (grant : Grant) : RunningBackup := ⟨grant.ticket, grant.snapshot⟩

/-- What showing the store printed when the backup was accepted. -/
def rendering (grant : Grant) : Bytes := encode (Report.listing grant.snapshot)

end Grant

namespace Chronicle

variable {directory : Path} {limit : Nat} {files : FileTree} {chronicle : Chronicle}

theorem after_append (chronicle : Chronicle) (first second : List BackupEvent) :
    chronicle.after (first ++ second) = (chronicle.after first).after second :=
  List.foldl_append

theorem after_concat (chronicle : Chronicle) (events : List BackupEvent) (event : BackupEvent) :
    chronicle.after (events ++ [event]) = (chronicle.after events).step event :=
  after_append chronicle events [event]

/-- An event accepts nothing, or one request for a backup of what the store holds then. -/
theorem accepted_step (chronicle : Chronicle) (event : BackupEvent) :
    (chronicle.step event).accepted = chronicle.accepted ∨
      ∃ job, event.Asks job ∧ chronicle.step event = chronicle.launch job := by
  cases event with
  | call call => exact .inl rfl
  | request job =>
    rw [step_request]
    split
    · exact .inl rfl
    · exact .inr ⟨job, .inl rfl, rfl⟩
  | tryRequest job =>
    rw [step_tryRequest]
    split
    · exact .inl rfl
    · exact .inr ⟨job, .inr rfl, rfl⟩
  | complete position writer =>
    refine .inl ?_
    unfold step
    dsimp only
    split <;> rfl

theorem accepted_launch (chronicle : Chronicle) (job : String) :
    (chronicle.launch job).accepted =
      chronicle.accepted ++ [⟨job, (chronicle.backups.launch chronicle.hub.store job).1,
        chronicle.hub.store.snapshot⟩] :=
  rfl

theorem prefix_accepted_after (chronicle : Chronicle) (events : List BackupEvent) :
    chronicle.accepted <+: (chronicle.after events).accepted := by
  induction events generalizing chronicle with
  | nil => exact List.prefix_refl _
  | cons event rest ih =>
    refine List.IsPrefix.trans ?_ (ih (chronicle.step event))
    rcases accepted_step chronicle event with same | ⟨job, -, launched⟩
    · rw [same]
    · rw [launched, accepted_launch]
      exact List.prefix_append _ _

/-- Requests and completions leave the store alone. -/
theorem hub_after (chronicle : Chronicle) (events : List BackupEvent) :
    (chronicle.after events).hub = chronicle.hub.after (calls events) := by
  induction events generalizing chronicle with
  | nil => rfl
  | cons event rest ih =>
    refine (ih (chronicle.step event)).trans ?_
    cases event with
    | call call => rfl
    | request job =>
      rw [step_request]
      split <;> rfl
    | tryRequest job =>
      rw [step_tryRequest]
      split <;> rfl
    | complete position writer =>
      unfold step
      dsimp only
      split <;> rfl

/-- Each accepted backup has a moment of the run at which it was accepted, with the pairs that the
store held then. -/
theorem exists_moment {backups : Backups} {hub : Hub} (events : List BackupEvent) {n : Nat}
    {grant : Grant} (found : ((start hub backups files).after events).accepted[n]? = some grant) :
    ∃ before event later, events = before ++ event :: later ∧ event.Asks grant.job ∧
      ((start hub backups files).after before).accepted.length = n ∧
      ((start hub backups files).after (before ++ [event])).accepted.length = n + 1 ∧
      grant.snapshot = (hub.after (calls before)).store.snapshot := by
  induction events using List.reverseRecOn with
  | nil => cases found
  | append_singleton events event ih =>
    have old : ((start hub backups files).after events).accepted[n]? = some grant →
        ∃ before event' later, events ++ [event] = before ++ event' :: later ∧
          event'.Asks grant.job ∧ ((start hub backups files).after before).accepted.length = n ∧
          ((start hub backups files).after (before ++ [event'])).accepted.length = n + 1 ∧
          grant.snapshot = (hub.after (calls before)).store.snapshot := by
      intro earlier
      obtain ⟨before, event', later, rfl, facts⟩ := ih earlier
      exact ⟨before, event', later ++ [event], by simp, facts⟩
    rw [after_concat] at found
    rcases accepted_step ((start hub backups files).after events) event with
      same | ⟨job, asks, launched⟩
    · exact old (same ▸ found)
    · rw [launched, accepted_launch] at found
      rcases Nat.lt_or_ge n ((start hub backups files).after events).accepted.length with
        earlier | new
      · rw [List.getElem?_append_left earlier] at found
        exact old found
      · rw [List.getElem?_append_right new, List.getElem?_singleton] at found
        split at found
        · next last =>
          cases found
          refine ⟨events, event, [], rfl, asks, by omega, ?_, ?_⟩
          · rw [after_concat, launched, accepted_launch, List.length_append,
              List.length_singleton]
            omega
          · dsimp only
            rw [hub_after]
            rfl
        · cases found

/-- Each accepted backup has the path of one of the ordinals that its job has had. -/
theorem Accounts.exists_ordinal (accounts : Accounts directory limit chronicle) {grant : Grant}
    (member : grant ∈ chronicle.accepted) :
    ∃ m < chronicle.backups.ordinal grant.job, grant.ticket.path =
      directory.join (Path.ofText (Backups.fileName grant.job (m + 1))) := by
  have own : grant ∈ chronicle.acceptedFor grant.job :=
    List.mem_filter.mpr ⟨member, decide_eq_true rfl⟩
  obtain ⟨m, inside, found⟩ := List.getElem_of_mem own
  refine ⟨m, by rw [accounts.perJob]; exact inside, accounts.named grant.job m grant ?_⟩
  rw [List.getElem?_eq_getElem inside, found]

/-- Each accepted backup has a path of its own in the directory, and is running or in its file. -/
structure Filed (directory : Path) (limit : Nat) (files : FileTree) (chronicle : Chronicle) :
    Prop extends Accounts directory limit chronicle where
  single : ∀ grant ∈ chronicle.accepted, '/' ∉ grant.job.toList
  distinct : (chronicle.accepted.map fun grant => grant.ticket.path).Nodup
  /-- The files of the backups are in nobody's way. -/
  resolves : ∀ path place, files.resolveFile path = .ok place →
    chronicle.files.resolveFile path = .ok place
  accounted : ∀ backup ∈ chronicle.backups.running, ∃ grant ∈ chronicle.accepted,
    backup = grant.running
  filed : ∀ grant ∈ chronicle.accepted, grant.running ∈ chronicle.backups.running ∨
    chronicle.files.read grant.ticket.path = .ok grant.rendering

theorem filed_start {backups : Backups} (created : Backups.create directory limit = .ok backups)
    (hub : Hub) (files : FileTree) : Filed directory limit files (start hub backups files) where
  toAccounts := accounts_start created hub files
  single _ member := nomatch member
  distinct := List.nodup_nil
  resolves _ _ resolved := resolved
  accounted backup member := by
    have none : (start hub backups files).backups.running = [] :=
      List.length_eq_zero_iff.mp (Nat.eq_zero_of_add_eq_zero_right
        ((accounts_start created hub files).taken ▸ (accounts_start created hub files).balanced))
    exact absurd (none ▸ member) List.not_mem_nil
  filed _ member := nomatch member

/-- The path of a new backup was given to none before. -/
theorem Filed.path_not_mem (state : Filed directory limit files chronicle) {job : String}
    (single : '/' ∉ job.toList) :
    (chronicle.backups.launch chronicle.hub.store job).1.path ∉
      chronicle.accepted.map fun grant => grant.ticket.path := by
  intro member
  obtain ⟨grant, old, same⟩ := List.mem_map.mp member
  obtain ⟨m, earlier, path⟩ := state.exists_ordinal old
  have fresh : (chronicle.backups.launch chronicle.hub.store job).1.path =
      directory.join (Path.ofText (Backups.fileName job (chronicle.backups.ordinal job + 1))) :=
    state.placed ▸ rfl
  rw [path, fresh] at same
  have names := Path.join_injective (Backups.isFileName_fileName (state.single grant old) _)
    (Backups.isFileName_fileName single _) same
  obtain ⟨rfl, ordinals⟩ := Backups.fileName_injective (encode_injective names)
  omega

theorem Filed.launch (state : Filed directory limit files chronicle)
    (room : chronicle.backups.active < limit) {job : String} (single : '/' ∉ job.toList) :
    Filed directory limit files (chronicle.launch job) where
  toAccounts := state.toAccounts.launch room job
  single grant member := by
    rcases List.mem_append.mp member with old | new
    · exact state.single grant old
    · rw [List.mem_singleton.mp new]
      exact single
  distinct := by
    rw [accepted_launch, List.map_append, List.nodup_append]
    refine ⟨state.distinct, List.nodup_singleton _, ?_⟩
    rintro path old other new rfl
    rw [List.map_singleton, List.mem_singleton] at new
    exact state.path_not_mem single (new ▸ old)
  resolves := state.resolves
  accounted backup member := by
    rcases List.mem_append.mp member with old | new
    · obtain ⟨grant, accepted, same⟩ := state.accounted backup old
      exact ⟨grant, List.mem_append_left _ accepted, same⟩
    · exact ⟨_, List.mem_append_right _ (List.mem_singleton_self _), List.mem_singleton.mp new⟩
  filed grant member := by
    rcases List.mem_append.mp member with old | new
    · exact (state.filed grant old).imp_left (List.mem_append_left _)
    · rw [List.mem_singleton.mp new]
      exact .inl (List.mem_append_right _ (List.mem_singleton_self _))

/-- Two accepted backups are written to two places. -/
theorem Filed.place_ne (state : Filed directory limit files chronicle) {grant other : Grant}
    (member : grant ∈ chronicle.accepted) (otherMember : other ∈ chronicle.accepted)
    (apart : grant.ticket.path ≠ other.ticket.path) {place otherPlace : Place}
    (resolved : files.resolveFile grant.ticket.path = .ok place)
    (otherResolved : files.resolveFile other.ticket.path = .ok otherPlace) :
    place ≠ otherPlace := by
  obtain ⟨m, -, path⟩ := state.exists_ordinal member
  obtain ⟨k, -, otherPath⟩ := state.exists_ordinal otherMember
  rw [path] at resolved apart
  rw [otherPath] at otherResolved apart
  refine FileTree.place_ne_of_name_ne
    (Backups.isFileName_fileName (state.single grant member) (m + 1))
    (Backups.isFileName_fileName (state.single other otherMember) (k + 1)) ?_ resolved otherResolved
  exact fun names => apart (by rw [Path.ofText, Path.ofText, names])

/-- Writing the file of one accepted backup files it and spoils no other file. -/
theorem Filed.read_written (state : Filed directory limit files chronicle)
    {written : Grant} (member : written ∈ chronicle.accepted) {place : Place}
    (resolved : files.resolveFile written.ticket.path = .ok place)
    {grant : Grant} (otherMember : grant ∈ chronicle.accepted)
    (creatable : ∃ place, files.resolveFile grant.ticket.path = .ok place)
    (settled : grant = written ∨
      chronicle.files.read grant.ticket.path = .ok grant.rendering) :
    (chronicle.files.setEntry place (.file written.rendering)).read grant.ticket.path =
      .ok grant.rendering := by
  have current := state.resolves _ _ resolved
  by_cases same : grant = written
  · rw [same]
    exact FileTree.read_setEntry current
  · obtain ⟨otherPlace, otherResolved⟩ := creatable
    have apart : grant.ticket.path ≠ written.ticket.path :=
      fun paths => same (List.inj_on_of_nodup_map state.distinct otherMember member paths)
    rw [FileTree.read_setEntry_of_ne (FileTree.resolveFile_eq_ok_iff.mp current).2.2.2
      (state.resolves _ _ otherResolved)
      (state.place_ne otherMember member apart otherResolved resolved)]
    exact settled.resolve_left same

theorem Filed.complete (state : Filed directory limit files chronicle)
    (creatable : ∀ grant ∈ chronicle.accepted,
      ∃ place, files.resolveFile grant.ticket.path = .ok place) (position : Nat) :
    Filed directory limit files (chronicle.step (.complete position .file)) := by
  have accounts := state.toAccounts.complete position .file
  cases finished : chronicle.backups.finish? position with
  | none =>
    simp only [step, finished]
    exact state
  | some ended =>
    obtain ⟨backup, backups⟩ := ended
    obtain ⟨present, rfl⟩ := Backups.finish?_eq_some_iff.mp finished
    obtain ⟨written, member, rfl⟩ := state.accounted backup (List.mem_of_getElem? present)
    obtain ⟨place, resolved⟩ := creatable written member
    have current := state.resolves _ _ resolved
    have vacant := (FileTree.resolveFile_eq_ok_iff.mp current).2.2.2
    have ran : SnapshotWriter.file.run chronicle.files written.running =
        chronicle.files.setEntry place (.file written.rendering) := by
      unfold SnapshotWriter.run FileTree.writeSnapshot FileTree.write
      rw [show written.running.ticket.path = written.ticket.path from rfl, current]
      rfl
    simp only [step, finished, ran] at accounts ⊢
    refine ⟨accounts, state.single, state.distinct, ?_, ?_, ?_⟩
    · exact fun path there found =>
        FileTree.resolveFile_setEntry vacant (state.resolves path there found)
    · exact fun backup remaining => state.accounted backup (List.mem_of_mem_eraseIdx remaining)
    · intro grant accepted
      have filing := state.read_written member resolved accepted (creatable grant accepted)
      rcases state.filed grant accepted with runs | filed
      · obtain ⟨index, inside, found⟩ := List.getElem_of_mem runs
        by_cases here : index = position
        · subst here
          rw [List.getElem?_eq_getElem inside, found, Option.some.injEq] at present
          have paths := congrArg (fun backup => backup.ticket.path) present
          exact .inr (filing (.inl (List.inj_on_of_nodup_map state.distinct accepted member paths)))
        · refine .inl (List.mem_eraseIdx_iff_getElem?.mpr ⟨index, here, ?_⟩)
          rw [List.getElem?_eq_getElem inside, found]
      · exact .inr (filing (.inr filed))

theorem Filed.request (state : Filed directory limit files chronicle) {job : String}
    (single : '/' ∉ job.toList) :
    Filed directory limit files
      (if chronicle.backups.isFull then chronicle else chronicle.launch job) := by
  split
  · exact state
  · next room =>
    have free := Backups.isFull_eq_false_iff.mp (Bool.eq_false_iff.mpr room)
    exact state.launch (state.limited ▸ free) single

theorem filed_step (state : Filed directory limit files chronicle) {event : BackupEvent}
    (plain : event.IsPlain) (creatable : ∀ grant ∈ chronicle.accepted,
      ∃ place, files.resolveFile grant.ticket.path = .ok place) :
    Filed directory limit files (chronicle.step event) := by
  cases event with
  | call call => exact { state with }
  | request job => exact step_request chronicle job ▸ state.request plain
  | tryRequest job => exact step_tryRequest chronicle job ▸ state.request plain
  | complete position writer =>
    obtain rfl : writer = .file := plain
    exact state.complete creatable position

theorem filed_after (state : Filed directory limit files chronicle) {events : List BackupEvent}
    (plain : ∀ event ∈ events, event.IsPlain)
    (creatable : ∀ grant ∈ (chronicle.after events).accepted,
      ∃ place, files.resolveFile grant.ticket.path = .ok place) :
    Filed directory limit files (chronicle.after events) := by
  induction events generalizing chronicle with
  | nil => exact state
  | cons event rest ih =>
    refine ih (filed_step state (plain event List.mem_cons_self) ?_)
      (fun later member => plain later (List.mem_cons_of_mem _ member)) creatable
    exact fun grant member =>
      creatable grant ((prefix_accepted_after chronicle (event :: rest)).subset member)

/-- Once no backup is in flight, every accepted one is in its file. -/
theorem Filed.read_of_idle (state : Filed directory limit files chronicle)
    (idle : chronicle.backups.active = 0) {grant : Grant} (member : grant ∈ chronicle.accepted) :
    chronicle.files.read grant.ticket.path = .ok grant.rendering := by
  have none : chronicle.backups.running = [] :=
    List.length_eq_zero_iff.mp (state.taken.symm.trans idle)
  exact (state.filed grant member).resolve_left (none ▸ List.not_mem_nil)

/-- Ending the oldest backups one after the other is a run of completions. -/
theorem finishMany_eq_after (chronicle : Chronicle) (writer : SnapshotWriter) (count : Nat) :
    let ended := chronicle.after (List.replicate count (.complete 0 writer))
    chronicle.backups.finishMany writer chronicle.files count = (ended.backups, ended.files) := by
  induction count generalizing chronicle with
  | zero => rfl
  | succ count ih =>
    have oldest : chronicle.backups.finishOldest writer chronicle.files =
        ((chronicle.step (.complete 0 writer)).backups,
          (chronicle.step (.complete 0 writer)).files) := by
      unfold Backups.finishOldest
      dsimp only [step]
      cases chronicle.backups.finish? 0 <;> rfl
    unfold Backups.finishMany
    rw [oldest]
    exact ih (chronicle.step (.complete 0 writer))

/-- Completions of running backups accept nothing and free their slots. -/
theorem Accounts.after_completions (accounts : Accounts directory limit chronicle)
    (writer : SnapshotWriter) {count : Nat} (enough : count ≤ chronicle.backups.active) :
    (chronicle.after (List.replicate count (.complete 0 writer))).accepted = chronicle.accepted ∧
      (chronicle.after (List.replicate count (.complete 0 writer))).backups.active + count =
        chronicle.backups.active := by
  induction count generalizing chronicle with
  | zero => exact ⟨rfl, rfl⟩
  | succ count ih =>
    have running : 0 < chronicle.backups.running.length := by
      rw [← accounts.taken]
      omega
    obtain ⟨freed, -, same, -, -⟩ := step_complete accounts running writer
    obtain ⟨accepted, active⟩ := ih (accounts.complete 0 writer) (by omega)
    refine ⟨accepted.trans same, ?_⟩
    rw [← freed, ← active]
    rfl

/-- In every run over jobs without a slash, on files that can be created, each accepted request has a
moment at which it was accepted, with the pairs that the store held then, and no path was given away
twice. Whenever no backup is in flight the file of each accepted request shows exactly these pairs,
whatever was written or deleted since and however the backups were ended; and waiting for the
running backups leads to such a state. -/
theorem files_after_run {backups : Backups} (created : Backups.create directory limit = .ok backups)
    (hub : Hub) (files : FileTree) (settings : Settings) (events : List BackupEvent)
    (plain : ∀ event ∈ events, event.IsPlain)
    (creatable : ∀ grant ∈ ((start hub backups files).after events).accepted,
      ∃ written, files.write grant.ticket.path [] = .ok written) :
    let chronicle := (start hub backups files).after events
    let settled := (Executor.mk settings chronicle.hub chronicle.backups .file
      chronicle.files).settle
    (∀ n grant, chronicle.accepted[n]? = some grant →
      ∃ before event later, events = before ++ event :: later ∧ event.Asks grant.job ∧
        ((start hub backups files).after before).accepted.length = n ∧
        ((start hub backups files).after (before ++ [event])).accepted.length = n + 1 ∧
        grant.snapshot = (hub.after (calls before)).store.snapshot) ∧
    (chronicle.accepted.map fun grant => grant.ticket.path).Nodup ∧
    (chronicle.backups.active = 0 → ∀ grant ∈ chronicle.accepted,
      chronicle.files.read grant.ticket.path = .ok (encode (Report.listing grant.snapshot))) ∧
    settled.backups.active = 0 ∧
    ∀ grant ∈ chronicle.accepted,
      settled.files.read grant.ticket.path = .ok (encode (Report.listing grant.snapshot)) := by
  intro chronicle settled
  have resolved : ∀ grant ∈ chronicle.accepted,
      ∃ place, files.resolveFile grant.ticket.path = .ok place := by
    intro grant member
    obtain ⟨written, wrote⟩ := creatable grant member
    cases found : files.resolveFile grant.ticket.path with
    | error failure => simp [FileTree.write, found, Except.map] at wrote
    | ok place => exact ⟨place, rfl⟩
  have state : Filed directory limit files chronicle :=
    filed_after (filed_start created hub files) plain resolved
  let completions := List.replicate chronicle.backups.active (BackupEvent.complete 0 .file)
  obtain ⟨accepted, freed⟩ := state.after_completions .file (Nat.le_refl chronicle.backups.active)
  have idle : (chronicle.after completions).backups.active = 0 := by
    simp only [completions]
    omega
  have stateSettled : Filed directory limit files (chronicle.after completions) := by
    refine filed_after state ?_ ?_
    · intro event member
      rw [List.eq_of_mem_replicate member]
      rfl
    · rw [accepted]
      exact resolved
  have ends : chronicle.backups.settle .file chronicle.files =
      ((chronicle.after completions).backups, (chronicle.after completions).files) := by
    unfold Backups.settle
    rw [← state.taken]
    exact finishMany_eq_after chronicle .file chronicle.backups.active
  have waits : settled.backups = (chronicle.after completions).backups ∧
      settled.files = (chronicle.after completions).files := by
    simp only [settled, Executor.settle, ends, and_self]
  refine ⟨fun n grant found => exists_moment events found, state.distinct, ?_, ?_, ?_⟩
  · exact fun none grant member => state.read_of_idle none member
  · rw [waits.1, idle]
  · intro grant member
    rw [waits.2]
    exact stateSettled.read_of_idle idle (accepted ▸ member)

/-- Two jobs whose names differ by a dash and a digit, with the store changed between their requests
and the completions in the other order: each file shows the store as its job found it. -/
theorem files_after_run_of_two_jobs :
    let backups : Backups := ⟨Path.ofText "d", 2, 0, 0, [], []⟩
    let files : FileTree := ⟨[([encode "d"], .directory)]⟩
    let events : List BackupEvent :=
      [.call (.write [("k", "1")]), .request "a", .call (.write [("k", "2")]), .request "a-1",
        .tryRequest "a", .complete 1 .file, .call (.delete ["k"]), .complete 0 .file]
    let chronicle := (start (Hub.empty 4) backups files).after events
    chronicle.hub.store.snapshot = [] ∧
    chronicle.files.read (Path.ofText "d/a-1.bck") = .ok (encode "(k, 1)\n") ∧
    chronicle.files.read (Path.ofText "d/a-1-1.bck") = .ok (encode "(k, 2)\n") := by
  intro backups files events chronicle
  let first : Grant := ⟨"a", ⟨1, Path.ofText "d/a-1.bck"⟩, [("k", "1")]⟩
  let second : Grant := ⟨"a-1", ⟨2, Path.ofText "d/a-1-1.bck"⟩, [("k", "2")]⟩
  have accepted : chronicle.accepted = [first, second] := by decide +kernel
  have creatable : ∀ grant ∈ chronicle.accepted,
      ∃ written, files.write grant.ticket.path [] = .ok written := by
    intro grant member
    rw [accepted] at member
    rcases List.mem_cons.mp member with rfl | member
    · exact ⟨_, rfl⟩
    · rw [List.mem_singleton.mp member]
      exact ⟨_, rfl⟩
  obtain ⟨-, -, filed, -⟩ := @files_after_run (Path.ofText "d") 2 backups rfl (Hub.empty 4) files
    Settings.standard events (by decide) creatable
  have idle : chronicle.backups.active = 0 := by decide +kernel
  refine ⟨by decide +kernel, ?_, ?_⟩
  · exact filed idle first (accepted ▸ List.mem_cons_self)
  · exact filed idle second (accepted ▸ List.mem_cons_of_mem _ (List.mem_singleton_self _))

end Chronicle

end WatchedStore
