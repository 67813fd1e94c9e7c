import WatchedStore.Proofs.Session.Workshop
import WatchedStore.Session.Caller

/-! # What sessions do to the store

Sessions change the store and its mailboxes by calls and in no other way: they subscribe and
unsubscribe for their clients, release what they leave behind, and open, read and give up their
mailboxes. This holds of every function of the switchboard, of the pool and of the rendezvous, and
of every step in between two of which others may come. So what every call keeps is kept by sessions.
-/

namespace WatchedStore

namespace Hub

/-- A later hub that calls lead to. -/
def LeadsTo (hub later : Hub) : Prop := ∃ calls, hub.after calls = later

theorem LeadsTo.refl (hub : Hub) : hub.LeadsTo hub := ⟨[], rfl⟩

theorem LeadsTo.trans {hub middle later : Hub} (first : hub.LeadsTo middle)
    (second : middle.LeadsTo later) : hub.LeadsTo later := by
  obtain ⟨calls, rfl⟩ := first
  obtain ⟨more, rfl⟩ := second
  exact ⟨calls ++ more, List.foldl_append⟩

theorem leadsTo_call (hub : Hub) (call : Call) : hub.LeadsTo (hub.call call).2 := ⟨[call], rfl⟩

/-- Steps that act by calls add up to calls. -/
theorem leadsTo_foldl {σ α : Type} {view : σ → Hub} {step : σ → α → σ}
    (acts : ∀ state item, (view state).LeadsTo (view (step state item))) (start : σ)
    (items : List α) : (view start).LeadsTo (view (items.foldl step start)) := by
  induction items generalizing start with
  | nil => exact .refl _
  | cons item rest ih => exact (acts start item).trans (ih _)

end Hub

namespace Session

open WatchedStore.Wire

namespace Switchboard

theorem leadsTo_add (board : Switchboard) (id : SinkId) (queue : Nat) :
    board.hub.LeadsTo (board.add id queue).2.hub :=
  board.hub.leadsTo_call (.openMailbox queue)

theorem leadsTo_activate (board : Switchboard) (handle : Handle) :
    board.hub.LeadsTo (board.activate handle).2.hub := by
  unfold activate
  split
  · exact .refl _
  · split <;> exact .refl _

theorem leadsTo_register (board : Switchboard) (handle : Handle) :
    board.hub.LeadsTo (board.register handle).hub := by
  unfold register
  split <;> exact .refl _

theorem leadsTo_disconnect (board : Switchboard) (handle : Handle) :
    board.hub.LeadsTo (board.disconnect handle).2.hub := by
  unfold disconnect
  split
  · exact .refl _
  · next session _ =>
    dsimp only
    split
    · exact .refl _
    · exact board.hub.leadsTo_call (.unsubscribeAll session.id)

theorem leadsTo_finish (board : Switchboard) (handle : Handle) :
    board.hub.LeadsTo (board.finish handle).hub := by
  unfold finish
  split
  · exact .refl _
  · next session _ =>
    have closed := board.leadsTo_disconnect handle
    dsimp only
    split
    · exact closed.trans (Hub.leadsTo_call _ (.closeMailbox session.slot))
    · exact (closed.trans (Hub.leadsTo_call _ (.unsubscribeAll session.id))).trans
        (Hub.leadsTo_call _ (.closeMailbox session.slot))

theorem leadsTo_disconnectEach (board : Switchboard) (handles : List Handle) :
    board.hub.LeadsTo (board.disconnectEach handles).2.hub := by
  induction handles generalizing board with
  | nil => exact .refl _
  | cons handle rest ih => exact (board.leadsTo_disconnect handle).trans (ih _)

theorem leadsTo_disconnectAll (board : Switchboard) :
    board.hub.LeadsTo board.disconnectAll.2.hub :=
  leadsTo_disconnectEach { board with table := [] } _

theorem leadsTo_apply (board : Switchboard) (handle : Handle) (request : Request) :
    board.hub.LeadsTo (board.apply handle request).2.hub := by
  unfold apply
  split
  · exact .refl _
  · next session _ =>
    cases request with
    | disconnect => exact .refl _
    | subscribe key => exact board.hub.leadsTo_call (.subscribe key session.sink)
    | unsubscribe key => exact board.hub.leadsTo_call (.unsubscribe key session.id)

theorem leadsTo_passNotices (board : Switchboard) (handle : Handle) :
    board.hub.LeadsTo (board.passNotices handle).hub := by
  unfold passNotices
  split
  · exact .refl _
  · next session _ =>
    split
    · exact board.hub.leadsTo_call (.receive session.slot _)
    · exact .refl _

theorem leadsTo_passAllNotices (board : Switchboard) :
    board.hub.LeadsTo board.passAllNotices.hub :=
  Hub.leadsTo_foldl leadsTo_passNotices board _

theorem leadsTo_serveArrivals (board : Switchboard) (handle : Handle) (arrivals : List Arrival) :
    board.hub.LeadsTo (board.serveArrivals handle arrivals).2.hub := by
  fun_induction serveArrivals board handle arrivals with
  | case1 => exact .refl _
  | case2 => exact .refl _
  | case3 => exact .refl _
  | case4 _ _ _ _ _ _ ih => exact ih
  | case5 board arrivals _ request rest _ served applied ih =>
    have step := board.leadsTo_apply handle request
    rw [applied] at step
    exact step.trans ih
  | case6 board arrivals _ _ request rest _ served applied =>
    have step := board.leadsTo_apply handle request
    rw [applied] at step
    exact step

theorem leadsTo_serve (board : Switchboard) (handle : Handle) :
    board.hub.LeadsTo (board.serve handle).2.hub := by
  unfold serve
  split
  · exact .refl _
  · exact board.leadsTo_serveArrivals handle _

end Switchboard

namespace Workshop

theorem leadsTo_work (shop : Workshop) (handle : Handle) (session : Record) (stopped : Bool) :
    shop.board.hub.LeadsTo (shop.work handle session stopped).board.hub := by
  unfold work
  split
  · exact .refl _
  · exact shop.board.leadsTo_register handle
  · exact .refl _
  · have activated := shop.board.leadsTo_activate handle
    split
    · next board result =>
      rw [result] at activated
      exact activated
    · next board result =>
      rw [result] at activated
      exact activated
  · split <;> exact .refl _
  · next request _ => exact shop.board.leadsTo_apply handle request
  · split <;> exact .refl _
  · exact .refl _
  · exact Hub.leadsTo_call _ (.unsubscribeAll session.id)
  · exact Hub.leadsTo_call _ (.closeMailbox session.slot)
  · exact .refl _

theorem leadsTo_advance (shop : Workshop) (number : Nat) (sweep : Sweep) (handle : Handle)
    (rest : List Handle) :
    shop.board.hub.LeadsTo (shop.advance number sweep handle rest).board.hub := by
  unfold advance
  split
  · exact .refl _
  · next session _ =>
    split
    · split <;> exact .refl _
    · exact .refl _
    · exact Hub.leadsTo_call _ (.unsubscribeAll session.id)

theorem leadsTo_step (shop : Workshop) (event : WorkshopEvent) :
    shop.board.hub.LeadsTo (shop.step event).board.hub := by
  cases event with
  | work handle stopped =>
    unfold step
    dsimp only
    split
    · exact .refl _
    · next session _ => exact shop.leadsTo_work handle session stopped
  | leave handle =>
    unfold step
    dsimp only
    split <;> exact .refl _
  | advance number =>
    unfold step
    dsimp only
    split
    · exact .refl _
    · next sweep _ =>
      split
      · exact .refl _
      · next handle rest _ => exact shop.leadsTo_advance number sweep handle rest
  | call call => exact shop.board.hub.leadsTo_call call
  | arrive | drain | stop => exact .refl _

end Workshop

namespace WorkerPool

theorem leadsTo_takeUp (pool : WorkerPool) (handle : Handle) :
    pool.board.hub.LeadsTo (pool.takeUp handle).board.hub := by
  unfold takeUp
  split
  · exact pool.board.leadsTo_finish handle
  · have entered := pool.board.leadsTo_register handle
    have step := (pool.board.register handle).leadsTo_activate handle
    dsimp only
    split
    · next board activated =>
      rw [activated] at step
      exact entered.trans step
    · next board activated =>
      rw [activated] at step
      exact (entered.trans step).trans (board.leadsTo_finish handle)

theorem leadsTo_take? {pool taken : WorkerPool} (took : pool.take? = some taken) :
    pool.board.hub.LeadsTo taken.board.hub := by
  unfold take? at took
  split at took
  · cases took
  · next handle rest _ =>
    split at took
    · cases took
      exact leadsTo_takeUp { pool with buffer := rest } handle
    · cases took

theorem leadsTo_advance (pool : WorkerPool) (handle : Handle) :
    pool.board.hub.LeadsTo (pool.advance handle).board.hub := by
  have served := pool.board.leadsTo_serve handle
  unfold advance
  split
  · next board result =>
    rw [result] at served
    exact served
  · next board result =>
    rw [result] at served
    exact (served.trans (board.leadsTo_passNotices handle)).trans
      ((board.passNotices handle).leadsTo_finish handle)

theorem leadsTo_advanceAll (pool : WorkerPool) :
    pool.board.hub.LeadsTo pool.advanceAll.board.hub := by
  have served : pool.board.hub.LeadsTo (pool.serving.foldl advance pool).board.hub :=
    @Hub.leadsTo_foldl WorkerPool Handle (fun later => later.board.hub) advance leadsTo_advance pool
      pool.serving
  exact served.trans (Switchboard.leadsTo_passAllNotices _)

theorem leadsTo_takeRounds (pool : WorkerPool) (rounds : Nat) :
    pool.board.hub.LeadsTo (pool.takeRounds rounds).board.hub := by
  induction rounds generalizing pool with
  | zero => exact .refl _
  | succ rounds ih =>
    unfold takeRounds
    split
    · exact .refl _
    · next taken took =>
      exact ((leadsTo_take? took).trans taken.leadsTo_advanceAll).trans (ih _)

theorem leadsTo_settle (pool : WorkerPool) : pool.board.hub.LeadsTo pool.settle.board.hub :=
  pool.leadsTo_advanceAll.trans (pool.advanceAll.leadsTo_takeRounds _)

theorem leadsTo_disconnectAll (pool : WorkerPool) :
    pool.board.hub.LeadsTo pool.disconnectAll.2.board.hub :=
  pool.board.leadsTo_disconnectAll

theorem leadsTo_shutdown (pool : WorkerPool) : pool.board.hub.LeadsTo pool.shutdown.board.hub := by
  let stopped : WorkerPool := { pool with board := pool.board.stop }
  have closed : pool.board.hub.LeadsTo stopped.disconnectAll.2.board.hub :=
    stopped.leadsTo_disconnectAll
  exact closed.trans stopped.disconnectAll.2.leadsTo_settle

end WorkerPool

namespace Rendezvous

theorem hub_of_submitHeld? {server moved : Rendezvous}
    (submitted : server.submitHeld? = some moved) : moved.hub = server.hub := by
  unfold submitHeld? at submitted
  split at submitted
  · cases submitted
  · obtain ⟨pool, accepted, rfl⟩ := Option.map_eq_some_iff.mp submitted
    unfold WorkerPool.submit? at accepted
    split at accepted
    · cases accepted
      rfl
    · cases accepted

theorem leadsTo_submitRounds (server : Rendezvous) (rounds : Nat) :
    server.hub.LeadsTo (server.submitRounds rounds).hub := by
  induction rounds generalizing server with
  | zero => exact .refl _
  | succ rounds ih =>
    unfold submitRounds
    split
    · exact .refl _
    · next moved submitted =>
      rw [← hub_of_submitHeld? submitted]
      exact moved.pool.leadsTo_settle.trans (ih { moved with pool := moved.pool.settle })

theorem leadsTo_settle (server : Rendezvous) : server.hub.LeadsTo server.settle.hub := by
  let settled : Rendezvous := { server with pool := server.pool.settle }
  exact server.pool.leadsTo_settle.trans (settled.leadsTo_submitRounds _)

theorem leadsTo_openFrame (server : Rendezvous) (host : Host) (frame : Bytes) :
    server.hub.LeadsTo (server.openFrame host frame).2.hub := by
  unfold openFrame
  split
  · exact .refl _
  · next channels _ =>
    unfold Switchboard.openSession
    dsimp only
    cases Switchboard.openChannels host server.board.allocate.1 channels with
    | error error => exact .refl _
    | ok _ =>
      exact server.board.allocate.2.leadsTo_add server.board.allocate.1 server.queue

theorem leadsTo_handshake (server : Rendezvous) (host : Host) (source : ByteSource) :
    server.hub.LeadsTo (server.handshake host source).2.hub := by
  unfold handshake
  split
  · exact .refl _
  · next frame _ =>
    exact (server.leadsTo_openFrame host frame).trans (server.openFrame host frame).2.leadsTo_settle

theorem leadsTo_send (server : Rendezvous) (handle : Handle) (arrivals : List Arrival) :
    server.hub.LeadsTo (server.send handle arrivals).hub :=
  leadsTo_settle (server.withBoard (server.board.arrive handle arrivals))

theorem leadsTo_disconnectAll (server : Rendezvous) :
    server.hub.LeadsTo server.disconnectAll.hub := by
  let closed : Rendezvous := { server with pool := server.pool.disconnectAll.2 }
  exact server.pool.leadsTo_disconnectAll.trans closed.leadsTo_settle

theorem leadsTo_shutdown (server : Rendezvous) : server.hub.LeadsTo server.shutdown.hub := by
  let swept := server.withBoard (server.held.foldl Switchboard.finish server.board)
  have finished : server.hub.LeadsTo swept.hub :=
    Hub.leadsTo_foldl Switchboard.leadsTo_finish server.board server.held
  exact finished.trans swept.pool.leadsTo_shutdown

end Rendezvous

end Session

end WatchedStore
