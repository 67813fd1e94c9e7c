import WatchedStore.Proofs.Session.Board
import WatchedStore.Proofs.Session.Interpreter
import WatchedStore.Session.Rendezvous

/-! # What settling does

While no client has sent anything, the sessions that are served do nothing. Settling then comes down
to three moves: a session passes its notifications on, a worker takes a session up, and a held
session goes on to the buffer. What each of them keeps, settling keeps, and no notification is left
behind. Where one client has sent something, its session is served once and the rest is settling
again.
-/

namespace WatchedStore.Session

open WatchedStore.Wire

namespace WorkerPool

/-- A session is served, and nothing of its client is there to be read. -/
def RestsAt (pool : WorkerPool) (handle : Handle) : Prop :=
  pool.board.stopping = false ∧ ∃ session, pool.board.session? handle = some session ∧
    session.phase = .active ∧ session.arrivals = []

variable {pool : WorkerPool} {handle : Handle} {handles : List Handle}

theorem advance_of_rest (rests : pool.RestsAt handle) : pool.advance handle = pool := by
  obtain ⟨running, session, present, active, quiet⟩ := rests
  have served : pool.board.serve handle = (.waiting, pool.board) := by
    have still := @Switchboard.edit_eq_self pool.board handle session present
      (fun session => { session with arrivals := [] }) (by rw [← quiet])
    rw [Switchboard.serve, present]
    dsimp only
    rw [quiet, Switchboard.serveArrivals_eq, Switchboard.next_of_active present active running]
    exact congrArg _ still
  rw [advance, served]

theorem foldl_advance_of_rest (rests : ∀ handle ∈ handles, pool.RestsAt handle) :
    handles.foldl advance pool = pool := by
  induction handles with
  | nil => rfl
  | cons handle rest ih =>
    rw [List.foldl_cons, advance_of_rest (rests handle List.mem_cons_self)]
    exact ih fun other member => rests other (List.mem_cons_of_mem _ member)

/-- Where all sessions but one rest before and after, only that one is served. -/
theorem foldl_advance_of_one (once : handles.Nodup) (member : handle ∈ handles)
    (before : ∀ other ∈ handles, other ≠ handle → pool.RestsAt other)
    (after : ∀ other ∈ handles, other ≠ handle → (pool.advance handle).RestsAt other) :
    handles.foldl advance pool = pool.advance handle := by
  obtain ⟨first, last, rfl⟩ := List.append_of_mem member
  obtain ⟨-, fresh, apart⟩ := List.nodup_append.mp once
  have fresh := (List.nodup_cons.mp fresh).1
  have early : first.foldl advance pool = pool := foldl_advance_of_rest fun other inFirst =>
    before other (List.mem_append_left _ inFirst) (apart other inFirst handle List.mem_cons_self)
  have late : last.foldl advance (pool.advance handle) = pool.advance handle :=
    foldl_advance_of_rest fun other inLast =>
      after other (List.mem_append_right _ (List.mem_cons_of_mem _ inLast)) fun same =>
        fresh (same ▸ inLast)
  rw [List.foldl_append, List.foldl_cons, early, late]

theorem advanceAll_of_rest (rests : ∀ handle ∈ pool.serving, pool.RestsAt handle) :
    pool.advanceAll = { pool with board := pool.board.passAllNotices } := by
  rw [advanceAll, foldl_advance_of_rest rests]

/-- Settling with one session that has something to read begins with serving it. -/
theorem settle_eq_settle_advance (once : pool.serving.Nodup) (member : handle ∈ pool.serving)
    (before : ∀ other ∈ pool.serving, other ≠ handle → pool.RestsAt other)
    (after : ∀ other ∈ pool.serving, other ≠ handle → (pool.advance handle).RestsAt other)
    (rests : ∀ other ∈ (pool.advance handle).serving, (pool.advance handle).RestsAt other) :
    pool.settle = (pool.advance handle).settle := by
  have served : pool.advanceAll = (pool.advance handle).advanceAll := by
    rw [advanceAll_of_rest rests, advanceAll, foldl_advance_of_one once member before after]
  rw [settle, settle, served]

end WorkerPool

namespace Rendezvous

/-- Replaces the pool. -/
def withPool (server : Rendezvous) (pool : WorkerPool) : Rendezvous := { server with pool := pool }

section Moves

variable {P : Rendezvous → Prop}
  (rests : ∀ server, P server → ∀ handle ∈ server.pool.serving, server.pool.RestsAt handle)
  (passes : ∀ server handle, P server → P (server.withBoard (server.board.passNotices handle)))
  (takes : ∀ server pool, P server → server.pool.take? = some pool → P (server.withPool pool))
  (submits : ∀ server next, P server → server.submitHeld? = some next → P next)

include passes in
theorem withBoard_passAllNotices {server : Rendezvous} (start : P server) :
    P (server.withBoard server.board.passAllNotices) := by
  have passed : ∀ handles : List Handle, ∀ server, P server →
      P (server.withBoard (handles.foldl Switchboard.passNotices server.board)) := by
    intro handles
    induction handles with
    | nil => exact fun _ start => start
    | cons handle rest ih => exact fun server start => ih _ (passes server handle start)
  exact passed _ server start

include rests passes in
theorem withPool_advanceAll {server : Rendezvous} (start : P server) :
    P (server.withPool server.pool.advanceAll) ∧
      ∀ handle, server.pool.advanceAll.board.HasPassed handle := by
  rw [WorkerPool.advanceAll_of_rest (rests server start)]
  exact ⟨withBoard_passAllNotices passes start, Switchboard.hasPassed_passAllNotices _⟩

include rests passes takes in
theorem withPool_takeRounds (rounds : Nat) {server : Rendezvous} (start : P server)
    (passed : ∀ handle, server.board.HasPassed handle) :
    P (server.withPool (server.pool.takeRounds rounds)) ∧
      ∀ handle, (server.pool.takeRounds rounds).board.HasPassed handle := by
  induction rounds generalizing server with
  | zero => exact ⟨start, passed⟩
  | succ rounds ih =>
    rw [WorkerPool.takeRounds]
    cases taken : server.pool.take? with
    | none => exact ⟨start, passed⟩
    | some pool =>
      obtain ⟨kept, clear⟩ := withPool_advanceAll rests passes (takes server pool start taken)
      exact ih kept clear

include rests passes takes in
theorem withPool_settle {server : Rendezvous} (start : P server) :
    P (server.withPool server.pool.settle) ∧
      ∀ handle, server.pool.settle.board.HasPassed handle := by
  obtain ⟨kept, clear⟩ := withPool_advanceAll rests passes start
  exact withPool_takeRounds rests passes takes _ kept clear

include rests passes takes submits in
/-- What the three moves keep holds after settling, and then no session has notifications left that
it could pass on. -/
theorem settle_of_moves {server : Rendezvous} (start : P server) :
    P server.settle ∧ ∀ handle, server.settle.board.HasPassed handle := by
  have submitted : ∀ rounds server, P server → (∀ handle, server.board.HasPassed handle) →
      P (server.submitRounds rounds) ∧
        ∀ handle, (server.submitRounds rounds).board.HasPassed handle := by
    intro rounds
    induction rounds with
    | zero => exact fun _ start passed => ⟨start, passed⟩
    | succ rounds ih =>
      intro server start passed
      rw [submitRounds]
      cases moved : server.submitHeld? with
      | none => exact ⟨start, passed⟩
      | some next =>
        obtain ⟨kept, clear⟩ := withPool_settle rests passes takes (submits server next start moved)
        exact ih _ kept clear
  obtain ⟨kept, clear⟩ := withPool_settle rests passes takes start
  exact submitted _ _ kept clear

end Moves

end Rendezvous

end WatchedStore.Session
