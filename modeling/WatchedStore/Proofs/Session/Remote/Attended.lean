import WatchedStore.Proofs.Session.Remote.Settling
import WatchedStore.Proofs.Store.InStep

/-! # Attended sessions

Nobody closes sessions by force here and every client minds the protocol: then each session that is
not over waits in line or is served, in the order in which the sessions came, and what it has
answered is what its client is owed. The moves of settling keep that, and so do the changes that
clients bring about: one joins, one reads or is answered, one leaves.
-/

namespace WatchedStore.Session

open WatchedStore.Wire

namespace Rendezvous

/-- The sessions that wait for a worker, oldest first. -/
def waiting (server : Rendezvous) : List Handle := server.pool.buffer ++ server.held

/-- The sessions that are not over, oldest first. -/
def roll (server : Rendezvous) : List Handle := server.pool.serving ++ server.waiting

/-- The answer to CONNECT. -/
def welcome : Bytes := encodeResponse ⟨.connect, .ok⟩

/-- A session stands as its place in the line says. -/
structure Standing (server : Rendezvous) (owed : Handle → Bytes) (gone : Handle → Prop)
    (handle : Handle) (session : Record) : Prop where
  enrolled : handle ∈ server.roll ↔ ¬ gone handle
  serving : handle ∈ server.pool.serving → session.phase = .active ∧ session.notifying = true
  waiting : handle ∈ server.waiting → session.phase = .connecting
  quiet : handle ∈ server.roll → session.arrivals = []
  replies : session.replies = if handle ∈ server.waiting then [] else owed handle
  slot : session.slot = handle
  older : session.id < server.board.nextId

/-- Every session stands as its place in the line says. A session that has no worker yet will owe
the answer to CONNECT. -/
structure Attended (server : Rendezvous) (owed : Handle → Bytes) (gone : Handle → Prop) : Prop where
  running : server.board.stopping = false
  once : server.roll.Nodup
  known : ∀ {handle}, handle ∈ server.roll →
    ∃ session, server.board.session? handle = some session
  promised : ∀ {handle}, handle ∈ server.waiting → owed handle = welcome
  standing : ∀ {handle session}, server.board.session? handle = some session →
    server.Standing owed gone handle session
  ascending : ∀ {first second one two}, server.board.session? first = some one →
    server.board.session? second = some two → first < second → one.id < two.id

variable {server next : Rendezvous} {owed later : Handle → Bytes} {gone ended : Handle → Prop}
  {handle : Handle} {session : Record}

namespace Attended

theorem apart (attended : server.Attended owed gone) (serving : handle ∈ server.pool.serving) :
    handle ∉ server.waiting := fun waits =>
  (List.nodup_append.mp attended.once).2.2 handle serving handle waits rfl

/-- A session that is served rests until its client sends something. -/
theorem restsAt (attended : server.Attended owed gone) (serving : handle ∈ server.pool.serving) :
    server.pool.RestsAt handle := by
  have enrolled : handle ∈ server.roll := List.mem_append_left _ serving
  obtain ⟨session, present⟩ := attended.known enrolled
  have standing := attended.standing present
  exact ⟨attended.running, session, present, (standing.serving serving).1, standing.quiet enrolled⟩

/-- What is not about sessions may change. -/
theorem withHub (attended : server.Attended owed gone) (hub : Hub) :
    (server.withHub hub).Attended owed gone where
  running := attended.running
  once := attended.once
  known := attended.known
  promised := attended.promised
  standing := fun present => { attended.standing present with }
  ascending := attended.ascending

end Attended

/-- A change that is about one session: all others keep their records and their places. -/
structure Touches (server next : Rendezvous) (handle : Handle) (session record : Record) :
    Prop where
  running : next.board.stopping = server.board.stopping
  fresh : next.board.nextId = server.board.nextId
  before : server.board.session? handle = some session
  after : next.board.session? handle = some record
  id : record.id = session.id
  others : ∀ other ≠ handle, next.board.session? other = server.board.session? other
  serving : ∀ other ≠ handle, (other ∈ next.pool.serving ↔ other ∈ server.pool.serving)
  waiting : ∀ other ≠ handle, (other ∈ next.waiting ↔ other ∈ server.waiting)

namespace Touches

variable {record : Record}

theorem roll (touches : server.Touches next handle session record) {other : Handle}
    (apart : other ≠ handle) : other ∈ next.roll ↔ other ∈ server.roll := by
  rw [Rendezvous.roll, Rendezvous.roll, List.mem_append, List.mem_append,
    touches.serving other apart, touches.waiting other apart]

/-- An edit of a session. -/
theorem of_edit {board : Switchboard} {change : Record → Record}
    (present : server.board.session? handle = some session)
    (sessions : board.sessions = server.board.sessions.modify handle change)
    (running : board.stopping = server.board.stopping) (fresh : board.nextId = server.board.nextId)
    (id : (change session).id = session.id) :
    server.Touches (server.withBoard board) handle session (change session) := by
  have edited : ∀ other,
      board.session? other = (server.board.edit handle change).session? other := by
    intro other
    unfold Switchboard.session? Switchboard.edit
    rw [sessions]
  refine ⟨running, fresh, present, ?_, id, ?_, fun _ _ => Iff.rfl, fun _ _ => Iff.rfl⟩
  · exact (edited handle).trans (Switchboard.session?_edit_self present change)
  · exact fun other apart => (edited other).trans (Switchboard.session?_edit_of_ne apart change)

/-- After such a change it is enough to look at the session that it is about. -/
theorem attended (touches : server.Touches next handle session record)
    (attended : server.Attended owed gone) (once : next.roll.Nodup)
    (owes : ∀ other ≠ handle, later other = owed other)
    (ends : ∀ other ≠ handle, (ended other ↔ gone other))
    (promised : handle ∈ next.waiting → later handle = welcome)
    (standing : next.Standing later ended handle record) : next.Attended later ended := by
  have ids : ∀ {place now}, next.board.session? place = some now →
      ∃ earlier, server.board.session? place = some earlier ∧ now.id = earlier.id := by
    intro place now there
    by_cases same : place = handle
    · subst same
      cases touches.after.symm.trans there
      exact ⟨session, touches.before, touches.id⟩
    · exact ⟨now, (touches.others place same).symm.trans there, rfl⟩
  constructor
  case running => exact touches.running.trans attended.running
  case once => exact once
  case known =>
    intro place enrolled
    by_cases same : place = handle
    · exact ⟨record, same ▸ touches.after⟩
    · obtain ⟨now, there⟩ := attended.known ((touches.roll same).mp enrolled)
      exact ⟨now, (touches.others place same).trans there⟩
  case promised =>
    intro place waits
    by_cases same : place = handle
    · subst same
      exact promised waits
    · rw [owes place same]
      exact attended.promised ((touches.waiting place same).mp waits)
  case standing =>
    intro place now there
    by_cases same : place = handle
    · subst same
      cases touches.after.symm.trans there
      exact standing
    · have standing := attended.standing ((touches.others place same).symm.trans there)
      have waiting := touches.waiting place same
      constructor
      case enrolled => rw [touches.roll same, ends place same, standing.enrolled]
      case serving =>
        exact fun serving => standing.serving ((touches.serving place same).mp serving)
      case waiting => exact fun waits => standing.waiting (waiting.mp waits)
      case quiet => exact fun enrolled => standing.quiet ((touches.roll same).mp enrolled)
      case replies => rw [standing.replies, owes place same, if_congr waiting rfl rfl]
      case slot => exact standing.slot
      case older => exact touches.fresh ▸ standing.older
  case ascending =>
    intro first second one two here there before
    obtain ⟨old, hereBefore, sameId⟩ := ids here
    obtain ⟨older, thereBefore, sameIdThere⟩ := ids there
    rw [sameId, sameIdThere]
    exact attended.ascending hereBefore thereBefore before

end Touches

/-- A session is answered, or its client reads, or it passes notifications on. -/
theorem Attended.edit (attended : server.Attended owed gone)
    (present : server.board.session? handle = some session) {board : Switchboard}
    {change : Record → Record}
    (sessions : board.sessions = server.board.sessions.modify handle change)
    (running : board.stopping = server.board.stopping) (fresh : board.nextId = server.board.nextId)
    (keeps : (change session).id = session.id ∧ (change session).phase = session.phase ∧
      (change session).slot = session.slot ∧ (change session).arrivals = session.arrivals)
    (notifying : handle ∈ server.pool.serving → (change session).notifying = true)
    (promised : handle ∈ server.waiting → later handle = welcome)
    (replies : (change session).replies =
      if handle ∈ server.waiting then [] else later handle)
    (owes : ∀ other ≠ handle, later other = owed other) :
    (server.withBoard board).Attended later gone := by
  have standing := attended.standing present
  obtain ⟨id, phase, slot, arrivals⟩ := keeps
  refine (Touches.of_edit present sessions running fresh id).attended attended attended.once owes
    (fun _ _ => Iff.rfl) promised ?_
  exact {
    enrolled := standing.enrolled
    serving := fun serving => ⟨phase.trans (standing.serving serving).1, notifying serving⟩
    waiting := fun waits => phase.trans (standing.waiting waits)
    quiet := fun enrolled => arrivals.trans (standing.quiet enrolled)
    replies := replies
    slot := slot.trans standing.slot
    older := id ▸ fresh ▸ standing.older }

/-- A held session goes on to the buffer: nobody changes places. -/
theorem of_submitHeld? (moved : server.submitHeld? = some next) :
    next.board = server.board ∧ next.pool.serving = server.pool.serving ∧
      next.waiting = server.waiting := by
  unfold submitHeld? WorkerPool.submit? at moved
  split at moved
  · cases moved
  · next first rest line =>
    split at moved
    · cases moved
      refine ⟨rfl, rfl, ?_⟩
      rw [waiting, waiting, line]
      exact List.append_assoc ..
    · cases moved

theorem Attended.submit (attended : server.Attended owed gone)
    (moved : server.submitHeld? = some next) : next.Attended owed gone := by
  obtain ⟨board, serving, waiting⟩ := of_submitHeld? moved
  have roll : next.roll = server.roll := by
    rw [Rendezvous.roll, Rendezvous.roll, serving, waiting]
  refine ⟨board ▸ attended.running, roll ▸ attended.once, ?_, ?_, ?_, board ▸ attended.ascending⟩
  · rw [roll, board]
    exact attended.known
  · rw [waiting]
    exact attended.promised
  · intro place session there
    rw [board] at there
    have standing := attended.standing there
    exact ⟨roll ▸ standing.enrolled, serving ▸ standing.serving, waiting ▸ standing.waiting,
      roll ▸ standing.quiet, waiting ▸ standing.replies, standing.slot, board ▸ standing.older⟩

end Rendezvous

/-- A worker takes a session up and answers CONNECT. -/
def Record.admit (session : Record) : Record :=
  { session with
    phase := .active, notifying := true, replies := session.replies ++ Rendezvous.welcome }

theorem WorkerPool.takeUp_of_connecting {pool : WorkerPool} {handle : Handle} {session : Record}
    (running : pool.board.stopping = false) (present : pool.board.session? handle = some session)
    (connecting : session.phase = .connecting) :
    ∃ table, pool.takeUp handle =
      { pool with
        board := { pool.board with table := table }.edit handle Record.admit
        serving := pool.serving ++ [handle] } := by
  refine ⟨(pool.board.table.filter fun entry => entry.1 ≠ session.id) ++ [(session.id, handle)], ?_⟩
  unfold takeUp
  rw [if_neg (by simp [running])]
  have registered : pool.board.register handle = { pool.board with
      table := (pool.board.table.filter fun entry => entry.1 ≠ session.id) ++
        [(session.id, handle)] } := by
    rw [Switchboard.register, present]
    rfl
  have activated : (pool.board.register handle).activate handle =
      (.ok (), (pool.board.register handle).edit handle Record.admit) := by
    have there : (pool.board.register handle).session? handle = some session := by
      rw [registered]
      exact present
    rw [Switchboard.activate, there]
    dsimp only
    rw [if_pos connecting, Switchboard.respond, Switchboard.edit_edit]
    rfl
  dsimp only
  rw [activated, registered]

namespace Rendezvous

variable {server next : Rendezvous} {owed later : Handle → Bytes} {gone ended : Handle → Prop}
  {handle : Handle} {session : Record}

/-- The session that waits longest is taken up: nobody else changes places. -/
theorem Attended.of_take? (attended : server.Attended owed gone) {pool : WorkerPool}
    (taken : server.pool.take? = some pool) :
    ∃ handle session table, server.board.session? handle = some session ∧
      pool.board = { server.board with table := table }.edit handle Record.admit ∧
      pool.serving = server.pool.serving ++ [handle] ∧
      server.waiting = handle :: (server.withPool pool).waiting := by
  unfold WorkerPool.take? at taken
  split at taken
  · cases taken
  · next handle rest line =>
    split at taken
    · cases taken
      have waiting : server.waiting = handle :: (rest ++ server.held) := by
        rw [Rendezvous.waiting, line]
        rfl
      have waits : handle ∈ server.waiting := waiting ▸ List.mem_cons_self
      obtain ⟨session, present⟩ := attended.known (List.mem_append_right _ waits)
      obtain ⟨table, admitted⟩ := @WorkerPool.takeUp_of_connecting
        { server.pool with buffer := rest } handle session attended.running present
        ((attended.standing present).waiting waits)
      rw [admitted]
      exact ⟨handle, session, table, present, rfl, rfl, waiting⟩
    · cases taken

theorem Attended.take (attended : server.Attended owed gone) {pool : WorkerPool}
    (taken : server.pool.take? = some pool) : (server.withPool pool).Attended owed gone := by
  obtain ⟨handle, session, table, present, board, serving, waiting⟩ := attended.of_take? taken
  generalize moved : server.withPool pool = next at waiting ⊢
  have board : next.board = { server.board with table := table }.edit handle Record.admit :=
    moved ▸ board
  have serving : next.pool.serving = server.pool.serving ++ [handle] := moved ▸ serving
  have waits : handle ∈ server.waiting := waiting ▸ List.mem_cons_self
  have roll : next.roll = server.roll := by
    rw [Rendezvous.roll, Rendezvous.roll, serving, waiting, List.append_assoc]
    rfl
  have once : next.roll.Nodup := roll ▸ attended.once
  have absent : handle ∉ next.waiting := by
    have inLine := (List.nodup_append.mp attended.once).2.1
    rw [waiting] at inLine
    exact (List.nodup_cons.mp inLine).1
  have touches : server.Touches next handle session session.admit := by
    refine ⟨?_, ?_, present, ?_, rfl, ?_, ?_, ?_⟩
    · rw [board]
      rfl
    · rw [board]
      rfl
    · rw [board]
      exact @Switchboard.session?_edit_self { server.board with table := table } handle session
        present Record.admit
    · intro other apart
      rw [board]
      exact Switchboard.session?_edit_of_ne apart Record.admit
    · intro other apart
      simp [serving, apart]
    · intro other apart
      rw [waiting, List.mem_cons, or_iff_right apart]
  have standing := attended.standing present
  refine touches.attended attended once (fun _ _ => rfl) (fun _ _ => Iff.rfl)
    (fun member => absurd member absent) ?_
  constructor
  case enrolled => exact roll ▸ standing.enrolled
  case serving => exact fun _ => ⟨rfl, rfl⟩
  case waiting => exact fun member => absurd member absent
  case quiet => exact roll ▸ standing.quiet
  case replies =>
    have silent : session.replies = [] := standing.replies.trans (if_pos waits)
    rw [if_neg absent, attended.promised waits, Record.admit, silent]
    rfl
  case slot => exact standing.slot
  case older => exact touches.fresh ▸ standing.older

end Rendezvous

end WatchedStore.Session
