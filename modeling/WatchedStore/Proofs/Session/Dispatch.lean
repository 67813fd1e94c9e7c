import WatchedStore.Proofs.Session.Dispatch.Posts

/-! # The dispatcher loses no session

In every order of the steps of the accept loop, the workers and the forced disconnects each received
session is in one place, is answered and finished at most once, and is finished when the accept loop
has closed.
-/

namespace WatchedStore.Session

namespace Dispatch

variable {ids : List SinkId} {dispatch : Dispatch} {handle : Handle}

theorem steady_start {board : Switchboard} (sound : board.hub.store.Sound)
    (distinct : (board.sessions.map Record.id).Nodup)
    (connecting : ∀ session ∈ board.sessions, session.phase = .connecting)
    (unregistered : board.table = []) (workers capacity : Nat) :
    Steady (board.sessions.map Record.id) (start board workers capacity) where
  kept := kept_start board workers capacity
  orderly := Workshop.orderly_start sound distinct connecting unregistered
  fits _ := ⟨fun _ => rfl, nofun, nofun, nofun, fun _ => rfl, nofun⟩
  reached handle reached := by
    rcases reached with ⟨entry, member, -⟩ | ⟨_, none, _⟩
    · change entry ∈ board.table at member
      rw [unregistered] at member
      cases member
    · cases none
  present := nofun
  acknowledged := List.nodup_nil

theorem Steady.after (steady : Steady ids dispatch) {events : List DispatchEvent}
    (foreign : ∀ event ∈ events, event.IsForeign ids) : Steady ids (dispatch.after events) := by
  induction events generalizing dispatch with
  | nil => exact steady
  | cons event rest ih =>
    exact ih (steady.of_change (foreign event List.mem_cons_self) (dispatch.change_step event))
      fun later member => foreign later (List.mem_cons_of_mem _ member)

/-! ## The steps of a worker and the pool -/

/-- A worker does nothing with a session that it does not have. -/
theorem after_idle (idle : handle ∉ dispatch.crew) (stopped : Bool) (count : Nat) :
    dispatch.after (List.replicate count (.work handle stopped)) = dispatch := by
  induction count with
  | zero => rfl
  | succ count ih =>
    have same : dispatch.step (.work handle stopped) = dispatch := if_neg idle
    rw [List.replicate_succ, Dispatch.after, List.foldl_cons, same]
    exact ih

theorem shop_work (dispatch : Dispatch) (handle : Handle) (stopped : Bool) :
    (dispatch.work handle stopped).shop = dispatch.shop.step (.work handle stopped) := by
  unfold work
  dsimp only
  split
  · rfl
  · split <;> rfl

theorem work_of_finished {stopped : Bool}
    (finished : (dispatch.shop.step (.work handle stopped)).stage handle = .finished) :
    dispatch.work handle stopped = { (dispatch.on (.work handle stopped)).note handle .finished with
      crew := dispatch.crew.filter (· ≠ handle) } := by
  unfold work on
  dsimp only
  rw [if_neg (by rw [finished]; nofun), if_pos finished]

theorem crew_work_of_unfinished {stopped : Bool}
    (unfinished : (dispatch.shop.step (.work handle stopped)).stage handle ≠ .finished) :
    (dispatch.work handle stopped).crew = dispatch.crew := by
  unfold work on
  dsimp only
  rw [if_neg unfinished]
  split <;> rfl

/-- What the steps of one worker do to the pool. -/
theorem Steady.pool_after_work (steady : Steady ids dispatch) (mine : handle ∈ dispatch.crew)
    (stopped : Bool) (count : Nat) :
    let shop := dispatch.shop.after (List.replicate count (.work handle stopped))
    let later := dispatch.after (List.replicate count (.work handle stopped))
    later.pool = { dispatch.pool with board := shop.board, serving := later.crew } ∧
      (shop.stage handle = .finished → later.crew = dispatch.crew.filter (· ≠ handle)) ∧
      (shop.stage handle ≠ .finished → later.crew = dispatch.crew) := by
  induction count generalizing dispatch with
  | zero => exact ⟨rfl, fun finished => absurd finished ((steady.fits handle).busy mine).2, fun _ => rfl⟩
  | succ count ih =>
    have worked : dispatch.step (.work handle stopped) = dispatch.work handle stopped := if_pos mine
    have once : (dispatch.work handle stopped).pool = { dispatch.pool with
        board := (dispatch.shop.step (.work handle stopped)).board
        serving := (dispatch.work handle stopped).crew } := by
      unfold Dispatch.work
      dsimp only
      split
      · rfl
      · split <;> rfl
    simp only [List.replicate_succ, after_cons, Workshop.after_cons, worked]
    by_cases finished : (dispatch.shop.step (.work handle stopped)).stage handle = .finished
    · have crew : (dispatch.work handle stopped).crew = dispatch.crew.filter (· ≠ handle) := by
        rw [work_of_finished finished]
      have idle : handle ∉ (dispatch.work handle stopped).crew := by
        rw [crew]
        simp
      rw [Workshop.after_finished finished stopped count, after_idle idle stopped count]
      exact ⟨once, fun _ => crew, absurd finished⟩
    · have still := crew_work_of_unfinished finished
      have later := ih (steady.work (steady.kept.work mine stopped) mine) (still ▸ mine)
      rw [shop_work, still, once] at later
      exact later

/-- Where nothing comes between, a worker begins with a session as the pool does. -/
theorem Steady.pool_after_begin (steady : Steady ids dispatch) {others : List Handle}
    (crew : dispatch.crew = others ++ [handle]) (waiting : dispatch.shop.stage handle = .waiting)
    (stopped : Bool) :
    ∃ count, (dispatch.after (List.replicate count (.work handle stopped))).pool =
      { dispatch.pool with serving := others }.takeUp handle := by
  have mine : handle ∈ dispatch.crew := crew ▸ List.mem_append_right _ (List.mem_singleton_self _)
  have alone : dispatch.crew.filter (· ≠ handle) = others := by
    have single := steady.kept.count_places_le handle
    rw [crew, List.count_append, List.count_singleton_self] at single
    have unmanned : handle ∉ others := by
      rw [← List.count_eq_zero]
      omega
    rw [crew, List.filter_append, List.filter_eq_self.mpr fun other member => decide_eq_true
      (ne_of_mem_of_not_mem member unmanned)]
    simp
  obtain ⟨session, present⟩ := Option.ne_none_iff_exists'.mp
    (steady.present handle (steady.kept.nowhere_else (.inr mine)).1)
  have connecting : session.phase = .connecting := steady.orderly.fresh handle _ _
    (Switchboard.standing?_of_present present) (by rw [waiting]; rfl)
  unfold WorkerPool.takeUp Dispatch.pool
  dsimp only
  cases told : dispatch.shop.board.stopping with
  | true =>
    refine ⟨5, ?_⟩
    obtain ⟨board, finished⟩ := Workshop.board_after_refusal present waiting told stopped
    obtain ⟨pool, gone, -⟩ := steady.pool_after_work mine stopped 5
    refine pool.trans ?_
    rw [gone finished, alone, board]
    rfl
  | false =>
    refine ⟨4, ?_⟩
    obtain ⟨activated, serving⟩ :=
      Workshop.board_after_admission present waiting told connecting stopped
    obtain ⟨pool, -, stays⟩ := steady.pool_after_work mine stopped 4
    refine pool.trans ?_
    rw [stays (by rw [serving]; nofun), activated, crew]
    rfl

/-- Where nothing comes between, a worker takes a session and begins with it as the pool does. -/
theorem Steady.pool_take (steady : Steady ids dispatch) {pool : WorkerPool}
    (taken : dispatch.pool.take? = some pool) (stopped : Bool) :
    ∃ handle count, (dispatch.after (.take :: List.replicate count (.work handle stopped))).pool =
      pool := by
  unfold Dispatch.pool WorkerPool.take? at taken
  dsimp only at taken
  cases waiting : dispatch.buffer with
  | nil =>
    rw [waiting] at taken
    cases taken
  | cons handle rest =>
    rw [waiting] at taken
    obtain ⟨free, begun⟩ := Option.ite_none_right_eq_some.mp taken
    have queued : handle ∈ dispatch.buffer := waiting ▸ List.mem_cons_self
    have here := (steady.fits handle).waits (.inr (.inr queued))
    have took := steady.take (steady.kept.take waiting free) waiting
    obtain ⟨count, same⟩ := took.pool_after_begin rfl here stopped
    refine ⟨handle, count, ?_⟩
    have first : dispatch.step .take = { dispatch.note handle .taken with
        buffer := rest, crew := dispatch.crew ++ [handle] } := by
      simp only [Dispatch.step, waiting, if_pos free]
    rw [after_cons, first, same]
    exact Option.some.inj begun

/-! ## Workers that are to stop -/

/-- No worker had taken the session when the pool was told to stop. -/
structure Late (dispatch : Dispatch) (handle : Handle) : Prop where
  told : dispatch.shop.board.stopping = true
  aside : (dispatch.shop.stage handle).aside = true
  unanswered : handle ∉ dispatch.those .acknowledged

theorem Late.on (late : dispatch.Late handle) (event : WorkshopEvent) :
    (dispatch.on event).Late handle where
  told := Workshop.stopping_step late.told event
  aside := by
    rcases dispatch.shop.leads_step event handle with same | leads
    · exact same ▸ late.aside
    · exact (late.told ▸ leads).aside late.aside
  unanswered := late.unanswered

theorem Late.note (late : dispatch.Late handle) {other : Handle} {deed : Deed}
    (silent : deed = .acknowledged → other ≠ handle) : (dispatch.note other deed).Late handle where
  told := late.told
  aside := late.aside
  unanswered := by
    rw [those_note, List.mem_append, not_or]
    refine ⟨late.unanswered, ?_⟩
    split
    · next answers => exact fun own => silent answers (List.mem_singleton.mp own).symm
    · exact List.not_mem_nil

theorem Late.dismiss (late : dispatch.Late handle) (other : Handle) (door : Door) :
    (dispatch.dismiss other door).Late handle where
  told := late.told
  aside := by
    change ((dispatch.shop.move other .leaving).stage handle).aside = true
    by_cases own : handle = other
    · rw [own, Workshop.stage_move]
      rfl
    · rw [Workshop.stage_move_of_ne own]
      exact late.aside
  unanswered := late.unanswered

theorem Late.work (late : dispatch.Late handle) (other : Handle) (stopped : Bool) :
    (dispatch.work other stopped).Late handle := by
  have later := late.on (.work other stopped)
  unfold Dispatch.work
  dsimp only
  split
  · next answers =>
    refine later.note fun _ own => ?_
    have aside := late.aside
    rw [← own, answers.1] at aside
    cases aside
  · split
    · have finished := @Late.note _ _ later other .finished nofun
      exact ⟨finished.told, finished.aside, finished.unanswered⟩
    · exact later

theorem Late.tear (late : dispatch.Late handle) (other : Handle) (door : Door) :
    (dispatch.tear other door).Late handle := by
  have later := late.on (.work other true)
  unfold Dispatch.tear
  dsimp only
  split
  · have finished := @Late.note _ _ later other .finished nofun
    exact ⟨finished.told, finished.aside, finished.unanswered⟩
  · exact later

theorem Late.of_change (late : dispatch.Late handle) {made : DispatchEvent} {next : Dispatch}
    (change : dispatch.Change made next) : next.Late handle := by
  cases change with
  | goes => exact ⟨late.told, late.aside, late.unanswered⟩
  | does event =>
    have later := late.on event
    exact ⟨later.told, later.aside, later.unanswered⟩
  | @receives other =>
    have received := @Late.note _ _ late other .received nofun
    exact ⟨received.told, received.aside, received.unanswered⟩
  | @turnsAway other => exact (@Late.note _ _ late other .received nofun).dismiss other _
  | @submits other =>
    have submitted := @Late.note _ _ late other .submitted nofun
    exact ⟨submitted.told, submitted.aside, submitted.unanswered⟩
  | dismisses => exact late.dismiss _ _
  | tears => exact late.tear _ _
  | @takes other =>
    have taken := @Late.note _ _ late other .taken nofun
    exact ⟨taken.told, taken.aside, taken.unanswered⟩
  | works mine stopped => exact late.work _ stopped
  | leaves => exact late.on _

theorem Late.after (late : dispatch.Late handle) (events : List DispatchEvent) :
    (dispatch.after events).Late handle := by
  induction events generalizing dispatch with
  | nil => exact late
  | cons event rest ih => exact ih (late.of_change (dispatch.change_step event))

theorem Steady.late (steady : Steady ids dispatch) (told : dispatch.shop.board.stopping = true)
    (untaken : handle ∉ dispatch.those .taken) : dispatch.Late handle where
  told := told
  aside := (steady.fits handle).aside untaken
  unanswered answered := untaken ((steady.fits handle).answered answered).1

/-- A worker that sees that it is to stop finishes its session. -/
theorem Steady.finished_of_crew (steady : Steady ids dispatch) (mine : handle ∈ dispatch.crew)
    {count : Nat} (enough : (dispatch.shop.stage handle).left ≤ count) :
    handle ∈ (dispatch.after (List.replicate count (.work handle true))).those .finished := by
  induction count generalizing dispatch with
  | zero =>
    have finished := Stage.eq_finished_of_left (Nat.le_zero.mp enough)
    exact absurd finished ((steady.fits handle).busy mine).2
  | succ count ih =>
    have worked : dispatch.step (.work handle true) = dispatch.work handle true := if_pos mine
    have later := steady.work (steady.kept.work mine true) mine
    obtain ⟨session, present⟩ := Option.ne_none_iff_exists'.mp
      (steady.present handle (steady.kept.nowhere_else (.inr mine)).1)
    have closer := dispatch.shop.left_work handle session
    rw [← Workshop.step_work present] at closer
    rw [List.replicate_succ, Dispatch.after, List.foldl_cons, worked]
    by_cases finished : (dispatch.shop.step (.work handle true)).stage handle = .finished
    · have idle : handle ∉ (dispatch.work handle true).crew := by
        rw [work_of_finished finished]
        simp
      have stays := after_idle idle true count
      unfold Dispatch.after at stays
      rw [stays, work_of_finished finished]
      simp [those, note, Deed.entries_concat]
    · refine ih later ((crew_work_of_unfinished finished) ▸ mine) ?_
      rw [shop_work]
      exact Nat.le_trans closer (Nat.sub_le_of_le_add enough)

/-! ## All orders of the steps -/

/-- A session that no worker has taken is out of the reach of forced disconnects. -/
theorem Steady.untouched (steady : Steady ids dispatch) (untaken : handle ∉ dispatch.those .taken) :
    dispatch.shop.Untouched (dispatch.step .disconnectAll).shop handle ∧
      ∀ number, dispatch.shop.Untouched (dispatch.step (.advance number)).shop handle :=
  ⟨dispatch.shop.untouched_drain handle,
    steady.orderly.untouched_advance fun reached => untaken (steady.reached handle reached)⟩

theorem Steady.phase_of_finished (steady : Steady ids dispatch)
    (finished : handle ∈ dispatch.those .finished) :
    dispatch.shop.board.phase handle = .disconnected := by
  have stage := (steady.fits handle).finished finished
  cases there : dispatch.shop.board.standing? handle with
  | none =>
    rw [Switchboard.phase_eq, there]
    rfl
  | some standing =>
    have closed := steady.orderly.ended handle standing.1 standing.2 there (by rw [stage]; rfl)
    rw [Switchboard.phase_of_standing there, closed]

/-- In every run of an accept loop, of workers and of forced disconnects, over opened sessions with
distinct identities that nobody else subscribes:

* each session that the accept loop has received is in exactly one place: with the accept loop, in the
  buffer, with a worker, or finished;
* the buffer holds no more sessions than it may, and no more sessions have a worker than there are
  workers;
* sessions are taken in the order in which they were submitted;
* a session is acknowledged at most once and finished at most once, and a finished one is closed;
* a session that no worker had taken when the pool was told to stop is never acknowledged, and any
  session that has a worker is finished by nine steps of it, if it looks whether to stop and is to;
* a forced disconnect changes nothing about a session that no worker has taken;
* when the accept loop has closed, every session that it has received is finished and closed. -/
theorem sessions_after_run {board : Switchboard} (sound : board.hub.store.Sound)
    (distinct : (board.sessions.map Record.id).Nodup)
    (connecting : ∀ session ∈ board.sessions, session.phase = .connecting)
    (unregistered : board.table = []) (workers capacity : Nat) {events : List DispatchEvent}
    (foreign : ∀ event ∈ events, event.IsForeign (board.sessions.map Record.id)) :
    let dispatch := (start board workers capacity).after events
    (dispatch.places.Perm (dispatch.those .received) ∧ (dispatch.those .received).Nodup) ∧
    (dispatch.buffer.length ≤ max capacity 1 ∧ dispatch.crew.length ≤ max workers 1) ∧
    dispatch.those .submitted = dispatch.those .taken ++ dispatch.buffer ∧
    ((dispatch.those .acknowledged).Nodup ∧ (dispatch.those .finished).Nodup ∧
      ∀ handle ∈ dispatch.those .finished, dispatch.shop.board.phase handle = .disconnected) ∧
    ((∀ before later, events = before ++ later →
        let earlier := (start board workers capacity).after before
        earlier.shop.board.stopping = true → ∀ handle ∉ earlier.those .taken,
          handle ∉ dispatch.those .acknowledged) ∧
      ∀ handle ∈ dispatch.crew,
        handle ∈ (dispatch.after (List.replicate 9 (.work handle true))).those .finished) ∧
    (∀ handle ∉ dispatch.those .taken,
      dispatch.shop.Untouched (dispatch.step .disconnectAll).shop handle ∧
        ∀ number, dispatch.shop.Untouched (dispatch.step (.advance number)).shop handle) ∧
    (dispatch.door = .closed → ∀ handle ∈ dispatch.those .received,
      handle ∈ dispatch.those .finished ∧ dispatch.shop.board.phase handle = .disconnected) := by
  intro dispatch
  have begun := steady_start sound distinct connecting unregistered workers capacity
  have steady : Steady (board.sessions.map Record.id) dispatch := begun.after foreign
  have kept := steady.kept
  obtain ⟨workers_eq, capacity_eq⟩ : dispatch.workers = max workers 1 ∧
      dispatch.capacity = max capacity 1 :=
    Prod.mk.inj ((start board workers capacity).sizes_after events)
  have once : (dispatch.those .finished).Nodup :=
    (List.nodup_append.mp kept.nodup_places).2.1
  refine ⟨⟨kept.places, kept.once⟩, ⟨?_, ?_⟩, kept.inOrder,
    ⟨steady.acknowledged, once, fun _ => steady.phase_of_finished⟩, ⟨?_, ?_⟩,
    fun _ => steady.untouched, ?_⟩
  · exact capacity_eq ▸ kept.within
  · exact workers_eq ▸ kept.manned
  · rintro before later rfl earlier told handle untaken
    have early : Steady (board.sessions.map Record.id) earlier :=
      begun.after fun event member => foreign event (List.mem_append_left _ member)
    have late := (early.late told untaken).after later
    have whole : dispatch = earlier.after later :=
      after_append (start board workers capacity) before later
    rw [whole]
    exact late.unanswered
  · exact fun handle mine => steady.finished_of_crew mine (Stage.left_le _)
  · intro closed handle received
    have finished : handle ∈ dispatch.those .finished := by
      have placed := kept.places.mem_iff.mpr received
      obtain ⟨buffer, crew⟩ := kept.joined closed
      simpa [Dispatch.places, closed, Door.held, Door.torn, buffer, crew] using placed
    exact ⟨finished, steady.phase_of_finished finished⟩

/-- One worker, one place in the buffer and four sessions: one is served, one waits, one comes back from
the full buffer just before the shutdown, and one arrives behind the loop. The one that waits is taken
by the worker after the stop. -/
theorem sessions_after_run_of_shutdown :
    let hub := (Hub.empty 2).after (List.replicate 4 (.openMailbox 3))
    let opened (id : SinkId) (slot : Nat) : Record := ⟨id, .connecting, slot, false, [], [], []⟩
    let board : Switchboard := ⟨hub, [opened 1 0, opened 2 1, opened 3 2, opened 4 3], [], 5, false⟩
    let busy : List (List DispatchEvent) := [[.receive 0, .proceed, .take],
      List.replicate 4 (.work 0 false), [.receive 1, .proceed, .receive 2, .proceed, .proceed]]
    let closing : List (List DispatchEvent) := [[.shutdown], List.replicate 7 .proceed, [.receive 3],
      List.replicate 6 .proceed]
    let ending : List (List DispatchEvent) := [List.replicate 3 (.advance 0), [.proceed],
      List.replicate 4 (.work 0 true), [.take], List.replicate 5 (.work 1 true), [.proceed]]
    let dispatch := (start board 1 1).after (busy ++ closing ++ ending).flatten
    dispatch.those .received = [0, 1, 2, 3] ∧ dispatch.those .taken = [0, 1] ∧
    dispatch.those .acknowledged = [0] ∧ dispatch.those .finished = [2, 3, 0, 1] ∧
    dispatch.door = .closed ∧ ∀ handle ∈ dispatch.those .received,
      handle ∈ dispatch.those .finished ∧ dispatch.shop.board.phase handle = .disconnected := by
  intro hub opened board busy closing ending
  have sound : hub.store.Sound := Hub.sound_after (Store.sound_empty 2) _
  have foreign : ∀ event ∈ (busy ++ closing ++ ending).flatten,
      event.IsForeign (board.sessions.map Record.id) := by
    simp [busy, closing, ending, DispatchEvent.IsForeign]
  have run := @sessions_after_run board sound (by decide) (by decide) rfl 1 1 _ foreign
  obtain ⟨books, door⟩ : ((start board 1 1).after (busy ++ closing ++ ending).flatten).log =
      [(0, .received), (0, .submitted), (0, .taken), (0, .acknowledged), (1, .received),
        (1, .submitted), (2, .received), (2, .finished), (3, .received), (3, .finished),
        (0, .finished), (1, .taken), (1, .finished)] ∧
      ((start board 1 1).after (busy ++ closing ++ ending).flatten).door = .closed := by decide +kernel
  -- Nothing below looks into the run, so its value is forgotten before the facts are put together.
  generalize (start board 1 1).after (busy ++ closing ++ ending).flatten = dispatch at run books door ⊢
  obtain ⟨-, -, -, -, -, -, closed⟩ := run
  refine ⟨?_, ?_, ?_, ?_, door, closed door⟩
  all_goals
    rw [those, books]
    rfl

end Dispatch

end WatchedStore.Session
