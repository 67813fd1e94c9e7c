import WatchedStore.Proofs.Session.Remote.Requests
import WatchedStore.Proofs.Session.Remote.Tandem

/-! # What both sides have in common

The sessions of the clients are attended, both hubs are in step with a reader for every session that
is not over, and what a client has read, what is on its channel and what is queued for it are
together the frames of what its local counterpart was handed. Each step keeps that.
-/

namespace WatchedStore.Session

open WatchedStore.Wire

namespace Rendezvous

/-- Who reads which mailbox: the sessions that are not over. -/
def seats (server : Rendezvous) : Seats := fun slot =>
  if slot ∈ server.roll then (server.board.session? slot).map Record.id else none

variable {server next : Rendezvous} {handle : Handle} {session record : Record}

theorem seats_eq_some_iff {slot : Nat} {id : SinkId} :
    server.seats slot = some id ↔
      slot ∈ server.roll ∧ ∃ session, server.board.session? slot = some session ∧
        session.id = id := by
  unfold seats
  split
  · next member => simp [member]
  · next absent => simp [absent]

/-- A change under which no session leaves the line or joins it. -/
structure Stays (server next : Rendezvous) : Prop where
  count : next.board.sessions.length = server.board.sessions.length
  roll : next.roll = server.roll
  serving : ∀ handle ∈ server.pool.serving, handle ∈ next.pool.serving
  ids : ∀ slot, (next.board.session? slot).map Record.id =
    (server.board.session? slot).map Record.id

/-- A change under which no notification is passed on or read either. -/
structure Keeps (server next : Rendezvous) : Prop extends Stays server next where
  notices : ∀ slot, next.board.unheard slot = server.board.unheard slot

theorem Stays.seats (stays : server.Stays next) : next.seats = server.seats := by
  funext slot
  rw [Rendezvous.seats, Rendezvous.seats, stays.roll, stays.ids]

theorem Stays.of_edit {board : Switchboard} {change : Record → Record}
    (sessions : board.sessions = server.board.sessions.modify handle change)
    (id : ∀ session, (change session).id = session.id) : server.Stays (server.withBoard board) := by
  refine ⟨?_, rfl, fun _ member => member, Switchboard.map_session?_of_modify sessions id⟩
  change board.sessions.length = _
  rw [sessions, List.length_modify]

theorem Keeps.of_edit {board : Switchboard} {change : Record → Record}
    (sessions : board.sessions = server.board.sessions.modify handle change)
    (keeps : ∀ session, (change session).id = session.id ∧
      (change session).notices = session.notices) : server.Keeps (server.withBoard board) := by
  refine ⟨.of_edit sessions fun session => (keeps session).1, fun slot => ?_⟩
  exact congrArg (Option.getD · [])
    (Switchboard.map_session?_of_modify sessions (fun session => (keeps session).2) slot)

theorem Keeps.of_submit (moved : server.submitHeld? = some next) : server.Keeps next := by
  obtain ⟨board, serving, waiting⟩ := of_submitHeld? moved
  refine ⟨⟨by rw [board], ?_, ?_, fun _ => by rw [board]⟩, fun _ => by rw [board]⟩
  · rw [Rendezvous.roll, Rendezvous.roll, serving, waiting]
  · exact fun _ member => serving ▸ member

theorem Attended.keeps_of_take {owed : Handle → Bytes} {gone : Handle → Prop}
    (attended : server.Attended owed gone) {pool : WorkerPool}
    (taken : server.pool.take? = some pool) :
    server.Keeps (server.withPool pool) ∧ (server.withPool pool).hub = server.hub := by
  obtain ⟨handle, session, table, present, board, serving, waiting⟩ := attended.of_take? taken
  have edited : server.Keeps (server.withBoard pool.board) := by
    refine @Keeps.of_edit server handle pool.board Record.admit ?_ fun _ => ⟨rfl, rfl⟩
    rw [board]
    rfl
  refine ⟨⟨⟨edited.count, ?_, ?_, edited.ids⟩, edited.notices⟩, ?_⟩
  · rw [Rendezvous.roll, Rendezvous.roll, waiting]
    change pool.serving ++ _ = _
    rw [serving, List.append_assoc]
    rfl
  · intro other member
    change other ∈ pool.serving
    rw [serving]
    exact List.mem_append_left _ member
  · change pool.board.hub = server.hub
    rw [board]
    rfl

end Rendezvous

namespace Tandem

/-- How the queues of a client and of its local counterpart agree. -/
def agrees (tandem : Tandem) (handle : Handle) (queued mirrored : List Notice) : Prop :=
  (∀ note ∈ tandem.received handle ++ mirrored, note.IsPlain) ∧
    tandem.heard handle ++ tandem.remote.board.unheard handle ++ queued.flatMap Notice.frame =
      (tandem.received handle ++ mirrored).flatMap Notice.frame

/-- What holds between any two steps. -/
structure Matches (tandem : Tandem) (owed : Handle → Bytes) : Prop where
  attended : tandem.remote.Attended owed fun handle => tandem.stage handle = .gone
  connected : ∀ {handle}, tandem.stage handle = .connected → handle ∈ tandem.remote.pool.serving
  inStep : InStep tandem.remote.seats tandem.agrees ⟨tandem.remote.hub, tandem.log⟩ tandem.direct
  boxes : tandem.remote.hub.boxes.length = tandem.remote.board.sessions.length
  mirrors : tandem.direct.hub.boxes.length = tandem.remote.board.sessions.length
  fresh : ∀ {handle}, tandem.remote.board.sessions.length ≤ handle →
    tandem.stage handle = .dialing ∧ tandem.heard handle = [] ∧ tandem.received handle = []

variable {tandem : Tandem} {owed later : Handle → Bytes} {handle : Handle} {session : Record}
  {next : Rendezvous}

theorem agrees_grows (tandem : Tandem) (handle : Handle) (queued mirrored : List Notice)
    (note : Notice) (plain : note.IsPlain) (agrees : tandem.agrees handle queued mirrored) :
    tandem.agrees handle (queued ++ [note]) (mirrored ++ [note]) := by
  obtain ⟨clean, same⟩ := agrees
  constructor
  · intro other member
    rw [← List.append_assoc] at member
    rcases List.mem_append.mp member with old | new
    · exact clean other old
    · exact List.mem_singleton.mp new ▸ plain
  · rw [← List.append_assoc, List.flatMap_append, List.flatMap_append, ← same, ← List.append_assoc]

namespace Matches

/-- Both sides change, but not the line. -/
theorem stays {next : Tandem} (same : tandem.Matches owed) (stays : tandem.remote.Stays next.remote)
    (stage : next.stage = tandem.stage)
    (attended : next.remote.Attended later fun handle => tandem.stage handle = .gone)
    (inStep : InStep tandem.remote.seats next.agrees ⟨next.remote.hub, next.log⟩ next.direct)
    (boxes : next.remote.hub.boxes.length = tandem.remote.hub.boxes.length)
    (mirrors : next.direct.hub.boxes.length = tandem.direct.hub.boxes.length)
    (silent : ∀ {other}, tandem.remote.board.sessions.length ≤ other →
      next.heard other = tandem.heard other ∧ next.received other = tandem.received other) :
    next.Matches later where
  attended := stage ▸ attended
  connected := fun connected => stays.serving _ (same.connected (stage ▸ connected))
  inStep := stays.seats ▸ inStep
  boxes := boxes.trans (same.boxes.trans stays.count.symm)
  mirrors := mirrors.trans (same.mirrors.trans stays.count.symm)
  fresh := by
    intro other past
    have beyond : tandem.remote.board.sessions.length ≤ other := stays.count ▸ past
    obtain ⟨dialing, unread, untaken⟩ := same.fresh beyond
    obtain ⟨heard, received⟩ := silent beyond
    exact ⟨stage ▸ dialing, heard.trans unread, received.trans untaken⟩

/-- The remote side changes, but neither its line nor what its clients can read. -/
theorem keeps (same : tandem.Matches owed) (keeps : tandem.remote.Keeps next)
    (attended : next.Attended later fun handle => tandem.stage handle = .gone)
    {hub : Hub} (inStep : InStep tandem.remote.seats tandem.agrees ⟨next.hub, tandem.log⟩
      ⟨hub, tandem.direct.warnings⟩)
    (boxes : next.hub.boxes.length = tandem.remote.hub.boxes.length)
    (mirrors : hub.boxes.length = tandem.direct.hub.boxes.length) :
    ((tandem.onRemote next).onDirect hub).Matches later := by
  have agrees : ((tandem.onRemote next).onDirect hub).agrees = tandem.agrees := by
    funext handle queued mirrored
    unfold Tandem.agrees
    change (_ ∧ tandem.heard handle ++ next.board.unheard handle ++ _ = _) = _
    rw [keeps.notices]
    rfl
  exact same.stays keeps.toStays rfl attended (agrees ▸ inStep) boxes mirrors fun _ => ⟨rfl, rfl⟩

/-- A session passes its notifications on. -/
theorem pass (same : tandem.Matches owed) (handle : Handle) :
    (tandem.onRemote
      (tandem.remote.withBoard (tandem.remote.board.passNotices handle))).Matches owed := by
  generalize passed : tandem.remote.board.passNotices handle = board
  cases present : tandem.remote.board.session? handle with
  | none =>
    rw [Switchboard.passNotices_of_absent present] at passed
    rw [← passed]
    exact same
  | some session =>
    cases notifying : session.notifying with
    | false =>
      rw [Switchboard.passNotices_of_silent present notifying] at passed
      rw [← passed]
      exact same
    | true =>
      obtain ⟨bytes, flag, edited, whole⟩ := Switchboard.passNotices_of_notifying present notifying
      have standing := same.attended.standing present
      rw [standing.slot] at edited whole
      rw [passed] at edited
      -- A session that is served has a mailbox, and all that is queued there has a frame.
      have goesOn : handle ∈ tandem.remote.pool.serving → flag = true := by
        intro serving
        have enrolled : handle ∈ tandem.remote.roll := List.mem_append_left _ serving
        obtain ⟨box, mirror, here, -⟩ := same.inStep.queues
          (Rendezvous.seats_eq_some_iff.mpr ⟨enrolled, session, present, rfl⟩)
        exact (whole box here (same.inStep.plain here)).2
      let change : Record → Record := fun session =>
        { session with notices := session.notices ++ bytes, notifying := flag }
      have sessions : board.sessions = tandem.remote.board.sessions.modify handle change := by
        rw [edited]
        rfl
      have hub : board.hub = (tandem.remote.board.emptied handle).hub := by
        rw [edited]
        rfl
      have unheard : ∀ place, board.unheard place = if place = handle then
          session.notices ++ bytes else tandem.remote.board.unheard place := by
        rw [edited]
        exact @Switchboard.unheard_edit (tandem.remote.board.emptied handle) handle session
          present change
      refine same.stays (.of_edit sessions fun _ => rfl) rfl ?_ ?_ ?_ rfl fun _ => ⟨rfl, rfl⟩
      · exact same.attended.edit present sessions (by rw [edited]; rfl) (by rw [edited]; rfl)
          ⟨rfl, rfl, rfl, rfl⟩ goesOn same.attended.promised standing.replies fun _ _ => rfl
      · change InStep _ _ ⟨board.hub, tandem.log⟩ tandem.direct
        rw [hub]
        refine same.inStep.empty handle ?_ ?_
        · rintro box mirrored here ⟨clean, agrees⟩
          refine ⟨clean, ?_⟩
          obtain ⟨frames, -⟩ := whole box here (same.inStep.plain here)
          change tandem.heard handle ++ board.unheard handle ++ [] = _
          rw [unheard, if_pos rfl, frames, List.append_nil, ← List.append_assoc]
          rwa [Switchboard.unheard_of_present present] at agrees
        · rintro place queued mirrored apart ⟨clean, agrees⟩
          refine ⟨clean, ?_⟩
          change tandem.heard place ++ board.unheard place ++ _ = _
          rwa [unheard, if_neg apart]
      · change board.hub.boxes.length = _
        rw [hub]
        exact List.length_modify ..

/-- Settling leaves nothing in the queue of a session that passes notifications on, and it leaves
every session its identity. -/
theorem settle (same : tandem.Matches owed) :
    (tandem.onRemote tandem.remote.settle).Matches owed ∧
      (∀ slot, (tandem.remote.settle.board.session? slot).map Record.id =
        (tandem.remote.board.session? slot).map Record.id) ∧
      ∀ handle, tandem.remote.settle.board.HasPassed handle := by
  let P (server : Rendezvous) : Prop := (tandem.onRemote server).Matches owed ∧
    ∀ slot, (server.board.session? slot).map Record.id =
      (tandem.remote.board.session? slot).map Record.id
  rw [← and_assoc]
  refine @Rendezvous.settle_of_moves P ?_ ?_ ?_ ?_ tandem.remote ⟨same, fun _ => rfl⟩
  · exact fun server both handle serving => both.1.attended.restsAt serving
  · intro server handle both
    exact ⟨both.1.pass handle, fun slot =>
      (Switchboard.map_id_passNotices server.board handle slot).trans (both.2 slot)⟩
  · rintro server pool ⟨same, ids⟩ taken
    obtain ⟨keeps, hub⟩ := same.attended.keeps_of_take taken
    refine ⟨same.keeps keeps (same.attended.take taken) ?_ (by rw [hub]) rfl,
      fun slot => (keeps.ids slot).trans (ids slot)⟩
    rw [hub]
    exact same.inStep
  · rintro server next ⟨same, ids⟩ moved
    have keeps := Rendezvous.Keeps.of_submit moved
    have hub : next.hub = server.hub := by
      rw [Rendezvous.hub, (Rendezvous.of_submitHeld? moved).1]
      rfl
    refine ⟨same.keeps keeps (same.attended.submit moved) ?_ (by rw [hub]; rfl) rfl,
      fun slot => (keeps.ids slot).trans (ids slot)⟩
    rw [hub]
    exact same.inStep

section Calls

variable (same : tandem.Matches owed)
  (present : tandem.remote.board.session? handle = some session)

include same present

theorem sink_isSeated (enrolled : handle ∈ tandem.remote.roll) :
    session.sink.IsSeated tandem.remote.seats := by
  refine ⟨handle, Rendezvous.seats_eq_some_iff.mpr ⟨enrolled, session, present, rfl⟩, ?_⟩
  rw [Record.sink, (same.attended.standing present).slot]

/-- Both sides come to the same of a request. -/
theorem carryOut (enrolled : handle ∈ tandem.remote.roll) (request : Request) :
    (session.carryOut tandem.remote.hub request).1 =
        (session.carryOut tandem.direct.hub request).1 ∧
      InStep tandem.remote.seats tandem.agrees
        ⟨(session.carryOut tandem.remote.hub request).2, tandem.log⟩
        ⟨(session.carryOut tandem.direct.hub request).2, tandem.direct.warnings⟩ := by
  have store : tandem.direct.hub.store = tandem.remote.hub.store := same.inStep.store
  cases request with
  | disconnect => exact ⟨rfl, same.inStep⟩
  | subscribe key =>
    refine ⟨?_, same.inStep.subscribe key (same.sink_isSeated present enrolled)⟩
    simp only [Record.carryOut, Hub.subscribe, store]
  | unsubscribe key =>
    refine ⟨?_, same.inStep.unsubscribe key session.id⟩
    simp only [Record.carryOut, Hub.unsubscribe, store]

/-- A session that owed nothing owes the answer to a request. -/
theorem answer (serving : handle ∈ tandem.remote.pool.serving) (settled : owed handle = [])
    (request : Request) :
    ((tandem.onRemote (tandem.remote.answered handle session request)).onDirect
        (session.carryOut tandem.direct.hub request).2).Matches
      (Function.update owed handle (encodeResponse
        ⟨request.opcode, (session.carryOut tandem.direct.hub request).1⟩)) := by
  have standing := same.attended.standing present
  have apart := same.attended.apart serving
  obtain ⟨status, inStep⟩ := same.carryOut present (List.mem_append_left _ serving) request
  have boxes : ∀ hub : Hub, (session.carryOut hub request).2.boxes = hub.boxes := by
    intro hub
    cases request <;> rfl
  refine same.keeps (Rendezvous.Keeps.of_edit rfl ?_) ?_ inStep ?_ ?_
  · exact fun _ => ⟨rfl, rfl⟩
  · refine same.attended.edit present rfl rfl rfl ⟨rfl, rfl, rfl, rfl⟩
      (fun serving => (standing.serving serving).2) (fun waits => absurd waits apart) ?_
      fun other apart => Function.update_of_ne apart _ _
    have silent : session.replies = [] :=
      standing.replies.trans ((if_neg apart).trans settled)
    rw [if_neg apart, Function.update_self, silent, ← status]
    rfl
  · exact congrArg List.length (boxes tandem.remote.hub)
  · exact congrArg List.length (boxes tandem.direct.hub)

/-- The client reads the answer that it is owed. -/
theorem read {response : Response} (owes : owed handle = encodeResponse response)
    (apart : handle ∉ tandem.remote.waiting) :
    (tandem.onRemote (tandem.remote.withBoard
        (tandem.remote.board.afterReading handle))).Matches (Function.update owed handle []) := by
  have standing := same.attended.standing present
  refine same.keeps (Rendezvous.Keeps.of_edit rfl ?_) ?_ same.inStep rfl rfl
  · exact fun _ => ⟨rfl, rfl⟩
  refine same.attended.edit present rfl rfl rfl ⟨rfl, rfl, rfl, rfl⟩
    (fun serving => (standing.serving serving).2) (fun waits => absurd waits apart) ?_
    fun other apart => Function.update_of_ne apart _ _
  rw [if_neg apart, Function.update_self, standing.replies, if_neg apart, owes]
  rfl

end Calls

end Matches

end Tandem

end WatchedStore.Session
