import WatchedStore.Proofs.Session.Remote.Attended
import WatchedStore.Session.Caller

/-! # One request and its answer

A client that is connected sends one whole frame; its session carries the request out, answers, and
everything settles. Where the request ends the session, the session passes on what is queued and is
torn down first.
-/

namespace WatchedStore.Session

open WatchedStore.Wire

/-- The frame of a request is read back. -/
theorem nextRequest_of_frame {request : Request} {frame : Bytes}
    (encoded : encodeRequest request = .ok frame) :
    nextRequest false [.chunk frame] = .request request [] := by
  obtain ⟨payload, rfl, size, decoded⟩ := encodeRequest_eq_ok encoded
  have opcode : decodeOpcode request.opcode.byte = .ok request.opcode := by
    rw [decodeOpcode, Opcode.ofByte?_byte]
  cases payload with
  | nil =>
    have last : request.opcode.payloadLength = 0 := size.symm
    simp [nextRequest, fill, Fill.prepend, opcode, last, decoded]
  | cons byte rest =>
    have wanted : request.opcode.payloadLength = rest.length + 1 := size.symm
    simp [nextRequest, fill, Fill.prepend, opcode, wanted, decoded]

/-- What comes of a request of a session: the status that answers it, and the hub then. -/
def Record.carryOut (session : Record) (hub : Hub) : Request → Status × Hub
  | .disconnect => (.ok, hub)
  | .subscribe key =>
    let (outcome, hub) := hub.subscribe key session.sink
    (.ofSubscribe outcome, hub)
  | .unsubscribe key =>
    let (outcome, hub) := hub.unsubscribe key session.id
    (.ofUnsubscribe outcome, hub)

namespace Switchboard

variable {board : Switchboard} {handle : Handle} {session : Record}

theorem apply_eq (present : board.session? handle = some session) (request : Request) :
    board.apply handle request =
      (decide (request ≠ .disconnect),
        { board with hub := (session.carryOut board.hub request).2 }.respond handle
          ⟨request.opcode, (session.carryOut board.hub request).1⟩) := by
  rw [apply, present]
  cases request <;> rfl

/-- A request is served: the session answers, and goes on unless the request ends it. -/
theorem serve_frame (present : board.session? handle = some session)
    (active : session.phase = .active) (running : board.stopping = false)
    (quiet : session.arrivals = []) {request : Request} {frame : Bytes}
    (encoded : encodeRequest request = .ok frame) :
    (board.arrive handle [.chunk frame]).serve handle =
      (if request = .disconnect then .over (.ok ()) else .waiting,
        board.answered handle (session.carryOut board.hub request).2 request.opcode.byte
          (session.carryOut board.hub request).1.byte) := by
  let arrived := board.arrive handle [.chunk frame]
  have there : arrived.session? handle =
      some { session with arrivals := [.chunk frame] } := by
    refine (session?_edit_self present _).trans ?_
    rw [quiet]
    rfl
  have same : ({ session with arrivals := [.chunk frame] } : Record).carryOut arrived.hub request =
      session.carryOut board.hub request := by
    cases request <;> rfl
  rw [serve, there]
  dsimp only
  rw [serveArrivals_eq, next_of_active there active running, nextRequest_of_frame encoded]
  dsimp only
  rw [apply_eq there, same]
  -- What is left to do only says that nothing is left to read.
  have answered : ∀ hub status, ({ arrived with hub := hub }.respond handle
      ⟨request.opcode, status⟩).edit handle (fun session => { session with arrivals := [] }) =
      board.answered handle hub request.opcode.byte status.byte := by
    intro hub status
    change (({ board with hub := hub }.edit handle _).edit handle _).edit handle _ = _
    rw [edit_edit, edit_edit]
    refine @edit_congr { board with hub := hub } handle session present _ _ ?_
    simp only [Function.comp_apply, encodeResponse, ← quiet]
  by_cases last : request = .disconnect
  · subst last
    simp only [ne_eq, not_true_eq_false, decide_false, ↓reduceIte, answered]
  · have goes : decide (request ≠ .disconnect) = true := decide_eq_true last
    obtain ⟨record, here, active⟩ : ∃ record, ({ arrived with
        hub := (session.carryOut board.hub request).2 }.respond handle
          ⟨request.opcode, (session.carryOut board.hub request).1⟩).session? handle = some record ∧
        record.phase = .active :=
      ⟨_, @session?_edit_self { arrived with hub := _ } handle _ there _, active⟩
    rw [goes, if_neg last]
    dsimp only
    rw [serveArrivals_eq, next_of_active here active running]
    exact congrArg _ (answered ..)

/-- The client has read a response. -/
def afterReading (board : Switchboard) (handle : Handle) : Switchboard :=
  board.edit handle fun session => { session with replies := session.replies.drop responseSize }

/-- A response that is there is read back. -/
theorem readResponse?_eq (present : board.session? handle = some session) {response : Response}
    (replies : session.replies = encodeResponse response) :
    board.readResponse? handle = some (.ok response, board.afterReading handle) := by
  have read : (readResponse (.ofBytes (encodeResponse response))).1 = .ok response := by
    rw [← decodeResponse_encodeResponse response]
    rfl
  have whole : (encodeResponse response).take responseSize = encodeResponse response := rfl
  simp only [readResponse?, takeReplies, present, Option.map_some, Option.getD_some, replies, whole,
    read]
  rfl

end Switchboard

namespace Rendezvous

variable {server next : Rendezvous} {owed later : Handle → Bytes} {gone ended : Handle → Prop}
  {handle : Handle} {session : Record} {request : Request} {frame : Bytes}

/-- A session has answered a request. -/
def answered (server : Rendezvous) (handle : Handle) (session : Record) (request : Request) :
    Rendezvous :=
  let outcome := session.carryOut server.hub request
  server.withBoard (server.board.answered handle outcome.2 request.opcode.byte outcome.1.byte)

/-- A session that is over is torn down, and its worker is free. -/
def finished (server : Rendezvous) (handle : Handle) : Rendezvous :=
  server.withPool { server.pool with
    board := server.board.finish handle
    serving := server.pool.serving.filter (· ≠ handle) }

/-- Before a session is torn down it passes on what is queued. -/
def parted (server : Rendezvous) (handle : Handle) : Rendezvous :=
  (server.withBoard (server.board.passNotices handle)).finished handle

theorem advance_frame (attended : server.Attended owed gone)
    (serving : handle ∈ server.pool.serving)
    (present : server.board.session? handle = some session)
    (encoded : encodeRequest request = .ok frame) :
    ({ server.pool with board := server.board.arrive handle [.chunk frame] }).advance handle =
      if request = .disconnect then ((server.answered handle session request).parted handle).pool
      else (server.answered handle session request).pool := by
  have standing := attended.standing present
  have served := Switchboard.serve_frame present (standing.serving serving).1 attended.running
    (standing.quiet (List.mem_append_left _ serving)) encoded
  rw [WorkerPool.advance]
  dsimp only
  rw [served]
  by_cases last : request = .disconnect
  · rw [if_pos last, if_pos last]
    rfl
  · rw [if_neg last, if_neg last]
    rfl

/-- What a request of one session leaves settles as if nobody had sent anything. -/
theorem send_eq_settle (attended : server.Attended owed gone)
    (serving : handle ∈ server.pool.serving)
    (advanced : server.withPool (({ server.pool with
      board := server.board.arrive handle [.chunk frame] }).advance handle) = next)
    (rests : next.Attended later ended)
    (line : ∀ other ∈ server.pool.serving, other ≠ handle → other ∈ next.pool.serving) :
    server.send handle [.chunk frame] = next.settle := by
  let arrived : WorkerPool :=
    { server.pool with board := server.board.arrive handle [.chunk frame] }
  have pool : arrived.advance handle = next.pool := by
    rw [← advanced]
    rfl
  have settled : arrived.settle = next.pool.settle := by
    rw [← pool]
    refine WorkerPool.settle_eq_settle_advance (List.nodup_append.mp attended.once).1 serving
      ?_ ?_ ?_
    · intro other member apart
      obtain ⟨running, record, there, active, quiet⟩ := attended.restsAt member
      exact ⟨running, record, (Switchboard.session?_edit_of_ne apart _).trans there, active, quiet⟩
    · intro other member apart
      rw [pool]
      exact rests.restsAt (line other member apart)
    · intro other member
      rw [pool] at member ⊢
      exact rests.restsAt member
  rw [← advanced] at settled ⊢
  unfold send settle
  change submitRounds { server with pool := arrived.settle } _ = _
  rw [settled]
  rfl

/-- The client reads the answer. -/
theorem call?_eq (encoded : encodeRequest request = .ok frame)
    (sent : server.send handle [.chunk frame] = next)
    (present : next.board.session? handle = some session) {status : Status}
    (replies : session.replies = encodeResponse ⟨request.opcode, status⟩) :
    server.call? handle request =
      some (.ok status, next.withBoard (next.board.afterReading handle)) := by
  unfold call?
  rw [encoded]
  dsimp only
  rw [sent, Switchboard.readResponse?_eq present replies]
  simp only [Option.map_some, Except.bind, replyTo, ↓reduceIte]

/-- A key that cannot be sent fails without a byte. -/
theorem call?_of_not_isSendable {key : String} (unsendable : ¬ IsSendable key) (server : Rendezvous)
    (handle : Handle) :
    ∃ fault, server.call? handle (.subscribe key) = some (.error (.protocol fault), server) ∧
      server.call? handle (.unsubscribe key) = some (.error (.protocol fault), server) := by
  obtain ⟨fault, refused⟩ := encodeField_of_not_isSendable unsendable
  exact ⟨fault, by rw [call?, encodeRequest, refused]; rfl,
    by rw [call?, encodeRequest, refused]; rfl⟩

theorem acknowledged?_eq (present : server.board.session? handle = some session)
    (replies : session.replies = welcome) :
    server.acknowledged? handle =
      some (.ok (), server.withBoard (server.board.afterReading handle)) := by
  rw [acknowledged?, Switchboard.readResponse?_eq present replies]
  rfl

/-- Nothing is read from a session that waits for a worker, and nothing good without a session. -/
theorem acknowledged?_of_silent
    (silent : ∀ session, server.board.session? handle = some session →
      session.replies = [] ∧ session.phase = .connecting) :
    server.acknowledged? handle = none ∨
      ∃ error later, server.acknowledged? handle = some (.error error, later) := by
  unfold acknowledged? Switchboard.readResponse? Switchboard.takeReplies Switchboard.phase
  dsimp only
  cases present : server.board.session? handle with
  | none =>
    right
    exact ⟨_, _, rfl⟩
  | some session =>
    left
    obtain ⟨replies, connecting⟩ := silent session present
    simp [replies, connecting, responseSize]

end Rendezvous

end WatchedStore.Session
