import WatchedStore.Proofs.Session.Remote.Steps

/-! # Calls of a connected client

A client that is connected owes nothing between two calls, and one that is dialing will be owed the
answer to CONNECT. A call is answered with what the same call comes to on the local side, and both
sides are in step again when the answer is read.
-/

namespace WatchedStore.Session

open WatchedStore.Wire

namespace Tandem

/-- What the sessions have answered, or will answer, without a call. -/
def owes (tandem : Tandem) (handle : Handle) : Bytes :=
  if tandem.stage handle = .dialing then Rendezvous.welcome else []

variable {tandem : Tandem} {owed : Handle → Bytes} {handle : Handle} {session : Record}

theorem session?_eq_some_iff : tandem.session? handle = some session ↔
    tandem.stage handle = .connected ∧ tandem.remote.board.session? handle = some session := by
  unfold session?
  split <;> simp [*]

theorem owes_of_connected (connected : tandem.stage handle = .connected) :
    tandem.owes handle = [] := by
  rw [owes, connected]
  exact if_neg (by decide)

theorem owes_moveTo {stage : ClientStage} (met : stage ≠ .dialing) :
    (tandem.moveTo handle stage).owes = Function.update tandem.owes handle [] := by
  funext other
  rw [owes, stage_moveTo, Function.update_apply]
  by_cases same : other = handle
  · rw [if_pos same, if_pos same, if_neg met]
  · rw [if_neg same, if_neg same, owes]

namespace Matches

/-- A client that has been acknowledged has a session, which does not wait for a worker. -/
theorem met (same : tandem.Matches owed) (met : tandem.stage handle ≠ .dialing) :
    ∃ session, tandem.remote.board.session? handle = some session ∧
      handle ∉ tandem.remote.waiting := by
  cases present : tandem.remote.board.session? handle with
  | none =>
    have beyond : tandem.remote.board.sessions.length ≤ handle :=
      List.getElem?_eq_none_iff.mp present
    exact absurd (same.fresh beyond).1 met
  | some session =>
    refine ⟨session, rfl, ?_⟩
    cases stage : tandem.stage handle with
    | dialing => exact absurd stage met
    | connected => exact same.attended.apart (same.connected stage)
    | gone =>
      intro waits
      exact (same.attended.standing present).enrolled.mp (List.mem_append_right _ waits) stage

/-- When everything has settled, the answer that a client is owed can be read. -/
theorem settle_and_read (same : tandem.Matches owed) (met : tandem.stage handle ≠ .dialing)
    {response : Response} (owes : owed handle = encodeResponse response) :
    let next := tandem.remote.settle
    (∃ session, next.board.session? handle = some session ∧
      session.replies = encodeResponse response) ∧
    (tandem.onRemote (next.withBoard (next.board.afterReading handle))).Matches
      (Function.update owed handle []) := by
  intro next
  have settled := same.settle.1
  obtain ⟨session, present, apart⟩ := settled.met met
  refine ⟨⟨session, present, ?_⟩, settled.read present owes apart⟩
  rw [(settled.attended.standing present).replies, ← owes]
  exact if_neg apart

variable (same : tandem.Matches tandem.owes)

include same

/-- A request about a key that can be sent is answered with what it comes to on the local side. -/
theorem call (client : tandem.session? handle = some session) {request : Request} {frame : Bytes}
    (encoded : encodeRequest request = .ok frame) (goes : request ≠ .disconnect) :
    ∃ remote, tandem.remote.call? handle request =
        some (.ok (session.carryOut tandem.direct.hub request).1, remote) ∧
      ((tandem.onRemote remote).onDirect
        (session.carryOut tandem.direct.hub request).2).Matches tandem.owes := by
  obtain ⟨connected, present⟩ := session?_eq_some_iff.mp client
  have serving := same.connected connected
  have answered := same.answer present serving (owes_of_connected connected) request
  have advanced : tandem.remote.withPool (({ tandem.remote.pool with
      board := tandem.remote.board.arrive handle [.chunk frame] }).advance handle) =
      tandem.remote.answered handle session request := by
    rw [Rendezvous.advance_frame same.attended serving present encoded, if_neg goes]
    rfl
  have sent := Rendezvous.send_eq_settle same.attended serving advanced answered.attended
    fun _ member _ => member
  have met : tandem.stage handle ≠ .dialing := by
    rw [connected]
    decide
  obtain ⟨⟨record, there, replies⟩, read⟩ := answered.settle_and_read met (Function.update_self ..)
  refine ⟨_, Rendezvous.call?_eq encoded sent there replies, ?_⟩
  rw [Function.update_idem, ← owes_of_connected connected, Function.update_eq_self] at read
  exact read

/-- The status for a subscription is that of the local outcome. -/
theorem subscribe (client : tandem.session? handle = some session) {key : String}
    (sendable : IsSendable key) :
    ∃ remote, tandem.remote.call? handle (.subscribe key) =
        some (.ok (.ofSubscribe (tandem.direct.hub.subscribe key session.sink).1), remote) ∧
      ((tandem.onRemote remote).onDirect
        (tandem.direct.hub.subscribe key session.sink).2).Matches tandem.owes := by
  obtain ⟨⟨frame, encoded⟩, -⟩ := encodeRequest_of_isSendable sendable
  exact same.call client encoded (by rintro ⟨⟩)

theorem unsubscribe (client : tandem.session? handle = some session) {key : String}
    (sendable : IsSendable key) :
    ∃ remote, tandem.remote.call? handle (.unsubscribe key) =
        some (.ok (.ofUnsubscribe (tandem.direct.hub.unsubscribe key session.id).1), remote) ∧
      ((tandem.onRemote remote).onDirect
        (tandem.direct.hub.unsubscribe key session.id).2).Matches tandem.owes := by
  obtain ⟨-, ⟨frame, encoded⟩⟩ := encodeRequest_of_isSendable sendable
  exact same.call client encoded (by rintro ⟨⟩)

/-- A client that disconnects is answered, and leaves both sides. -/
theorem leave (client : tandem.session? handle = some session) :
    ∃ remote, tandem.remote.leave? handle = some (.ok (), remote) ∧
      let next := ((tandem.onRemote remote).onDirect
        (tandem.direct.hub.unsubscribeAll session.id).2).moveTo handle .gone
      next.Matches next.owes := by
  obtain ⟨connected, present⟩ := session?_eq_some_iff.mp client
  have serving := same.connected connected
  have answered := same.answer present serving (owes_of_connected connected) .disconnect
  -- Before it is torn down the session passes on what is queued.
  have passed := answered.pass handle
  have answers := Switchboard.session?_answered present
    (session.carryOut tandem.remote.hub .disconnect).2 Opcode.disconnect.byte
    (session.carryOut tandem.remote.hub .disconnect).1.byte
  obtain ⟨record, there, id⟩ := Option.map_eq_some_iff.mp
    ((Switchboard.map_id_passNotices _ handle handle).trans
      (congrArg (Option.map Record.id) answers))
  have finished := passed.finish there serving
  rw [id] at finished
  have encoded : encodeRequest .disconnect = .ok [Opcode.disconnect.byte] := rfl
  have advanced : tandem.remote.withPool (({ tandem.remote.pool with
      board := tandem.remote.board.arrive handle [.chunk [Opcode.disconnect.byte]] }).advance
        handle) = (tandem.remote.answered handle session .disconnect).parted handle := by
    rw [Rendezvous.advance_frame same.attended serving present encoded, if_pos rfl]
    rfl
  have line : ∀ other ∈ tandem.remote.pool.serving, other ≠ handle →
      other ∈ ((tandem.remote.answered handle session .disconnect).parted handle).pool.serving :=
    fun other member apart => List.mem_filter.mpr ⟨member, decide_eq_true apart⟩
  have sent := Rendezvous.send_eq_settle same.attended serving advanced finished.attended line
  obtain ⟨⟨later, here, replies⟩, read⟩ := finished.settle_and_read
    (by rw [stage_moveTo, if_pos rfl]; decide) (Function.update_self ..)
  let settled := ((tandem.remote.answered handle session .disconnect).parted handle).settle
  refine ⟨settled.withBoard (settled.board.afterReading handle), ?_, ?_⟩
  · rw [Rendezvous.leave?, Rendezvous.call?_eq encoded sent here replies]
    rfl
  · intro next
    have owed : next.owes = Function.update tandem.owes handle [] := owes_moveTo (by decide)
    rw [Function.update_idem, ← owed] at read
    exact read

/-- A client that dials joins both sides, or the remote side settles without it. -/
theorem connect (host : Host) (address : String) (channels : ConnectRequest) :
    let next := tandem.step (.connect host address channels)
    next.Matches next.owes := by
  have promised : tandem.owes tandem.remote.board.sessions.length = Rendezvous.welcome :=
    if_pos (same.fresh (Nat.le_refl _)).1
  unfold step
  dsimp only
  obtain joined | ⟨error, refused | settled | skipped⟩ :=
    tandem.remote.dial_cases host address channels
  · rw [joined]
    exact (same.join promised).settle.1
  · rw [refused]
    exact same
  · rw [settled]
    exact same.settle.1
  · rw [skipped]
    exact same.skip.settle.1

/-- A client reads the answer to CONNECT when there is one. -/
theorem acknowledge (handle : Handle) :
    let next := tandem.step (.acknowledge handle)
    next.Matches next.owes := by
  unfold step
  dsimp only
  by_cases dialing : tandem.stage handle = .dialing
  · rw [if_pos dialing]
    by_cases serving : handle ∈ tandem.remote.pool.serving
    · obtain ⟨session, present⟩ := same.attended.known (List.mem_append_left _ serving)
      have apart := same.attended.apart serving
      have promised : tandem.owes handle = Rendezvous.welcome := if_pos dialing
      have replies : session.replies = Rendezvous.welcome :=
        (same.attended.standing present).replies.trans ((if_neg apart).trans promised)
      rw [Rendezvous.acknowledged?_eq present replies]
      have read := (same.read present promised apart).connected_of_serving dialing serving
      have owed : ((tandem.onRemote (tandem.remote.withBoard
          (tandem.remote.board.afterReading handle))).moveTo handle .connected).owes =
          Function.update tandem.owes handle [] := owes_moveTo (by decide)
      rw [← owed] at read
      exact read
    · have silent : ∀ session, tandem.remote.board.session? handle = some session →
          session.replies = [] ∧ session.phase = .connecting := by
        intro session present
        have standing := same.attended.standing present
        have enrolled : handle ∈ tandem.remote.roll := standing.enrolled.mpr (by
          rw [dialing]
          decide)
        have waits := (List.mem_append.mp enrolled).resolve_left serving
        exact ⟨standing.replies.trans (if_pos waits), standing.waiting waits⟩
      obtain unread | ⟨error, later, failed⟩ := Rendezvous.acknowledged?_of_silent silent
      · rw [unread]
        exact same
      · rw [failed]
        exact same
  · rw [if_neg dialing]
    exact same

end Matches

end Tandem

end WatchedStore.Session
