import WatchedStore.Proofs.Session.Chunks
import WatchedStore.Session.Serve

/-! # Serving as interpreting bytes

What a session answers and what becomes of the store is a function of the bytes of its client. The
interpreter below is that function, written in terms of the bytes alone: it knows the digits of the
wire and the lengths of the payloads, and nothing of chunks, of retries or of decoded requests.
Nobody closes the session meanwhile, and its answers are all taken.
-/

namespace WatchedStore.Session

open WatchedStore.Text WatchedStore.Wire

/-- What comes of serving a session: how it ends, what it answers, and the hub it leaves. -/
structure Service where
  result : Except Error Unit
  replies : Bytes
  hub : Hub

/-- The length of the payload behind an opcode; none for a byte that is not an opcode. -/
def payloadSize? (opcode : UInt8) : Option Nat :=
  if opcode = 0x31 then some 120
  else if opcode = 0x32 then some 0
  else if opcode = 0x33 ∨ opcode = 0x34 then some 40
  else none

/-- The digit that answers a frame after which the session goes on, and the hub then: 3 for a frame
that is not a request and for a key that is not text, 0 for success, 1 for a key or a subscription
that is not there, 2 for a key with as many subscribers as it may have. -/
def answer (sink : Sink) (hub : Hub) (opcode : UInt8) (payload : Bytes) : UInt8 × Hub :=
  if opcode = 0x31 then (0x33, hub)
  else
    match decode? (payload.takeWhile (· ≠ 0)) with
    | none => (0x33, hub)
    | some key =>
      if opcode = 0x33 then
        let (outcome, next) := hub.subscribe key sink
        match outcome with
        | .subscribed | .alreadySubscribed => (0x30, next)
        | .keyNotFound => (0x31, next)
        | .limitReached => (0x32, next)
      else
        let (outcome, next) := hub.unsubscribe key sink.id
        match outcome with
        | .removed => (0x30, next)
        | .notSubscribed | .keyNotFound => (0x31, next)

/-- Interprets the bytes that a client sends before it ends its sending. -/
def interpret (sink : Sink) (hub : Hub) : Bytes → Service
  | [] => ⟨.ok (), [], hub⟩
  | opcode :: rest =>
    match payloadSize? opcode with
    | none => ⟨.error (.protocol (.unknownOpcode opcode)), [], hub⟩
    | some size =>
      if rest.length < size then ⟨.ok (), [], hub⟩
      else if opcode = 0x32 then ⟨.ok (), [0x32, 0x30], hub⟩
      else
        let (digit, next) := answer sink hub opcode (rest.take size)
        let later := interpret sink next (rest.drop size)
        { later with replies := opcode :: digit :: later.replies }
termination_by bytes => bytes.length
decreasing_by
  rw [List.length_drop, List.length_cons]
  omega

theorem payloadSize?_eq (byte : UInt8) :
    payloadSize? byte = (Opcode.ofByte? byte).map Opcode.payloadLength := by
  unfold payloadSize? Opcode.ofByte?
  split
  · rfl
  · split
    · rfl
    · by_cases subscribes : byte = 0x33
      · simp [subscribes, Opcode.payloadLength, fieldSize]
      · by_cases unsubscribes : byte = 0x34 <;>
          simp [subscribes, unsubscribes, Opcode.payloadLength, fieldSize]

/-- What the interpreter does behind a known opcode. -/
theorem interpret_byte (sink : Sink) (hub : Hub) (opcode : Opcode) (rest : Bytes) :
    interpret sink hub (opcode.byte :: rest) =
      if rest.length < opcode.payloadLength then ⟨.ok (), [], hub⟩
      else if opcode = .disconnect then ⟨.ok (), [0x32, 0x30], hub⟩
      else
        let answer := answer sink hub opcode.byte (rest.take opcode.payloadLength)
        let later := interpret sink answer.2 (rest.drop opcode.payloadLength)
        { later with replies := opcode.byte :: answer.1 :: later.replies } := by
  rw [interpret, payloadSize?_eq, Opcode.ofByte?_byte]
  cases opcode <;> rfl

theorem interpret_unknown (sink : Sink) (hub : Hub) {first : UInt8}
    (unknown : Opcode.ofByte? first = none) (rest : Bytes) :
    interpret sink hub (first :: rest) = ⟨.error (.protocol (.unknownOpcode first)), [], hub⟩ := by
  rw [interpret, payloadSize?_eq, unknown]
  rfl

section Answer

variable (sink : Sink) (hub : Hub) {payload : Bytes}

/-- A key that is not text is a bad request, and so is a second CONNECT. -/
theorem answer_of_not_text (opcode : Opcode)
    (notText : decode? (payload.takeWhile (· ≠ 0)) = none) :
    answer sink hub opcode.byte payload = (Status.badRequest.byte, hub) := by
  unfold answer
  split
  · rfl
  · rw [notText]
    rfl

variable {key : String} (text : decode? (payload.takeWhile (· ≠ 0)) = some key)

include text

theorem answer_subscribe :
    answer sink hub Opcode.subscribe.byte payload =
      ((Status.ofSubscribe (hub.subscribe key sink).1).byte, (hub.subscribe key sink).2) := by
  have apart : Opcode.subscribe.byte ≠ 0x31 := by decide
  have same : Opcode.subscribe.byte = 0x33 := rfl
  rw [answer, if_neg apart, text]
  dsimp only
  rw [if_pos same]
  rcases hub.subscribe key sink with ⟨_ | _ | _ | _, _⟩ <;> rfl

theorem answer_unsubscribe :
    answer sink hub Opcode.unsubscribe.byte payload =
      ((Status.ofUnsubscribe (hub.unsubscribe key sink.id).1).byte,
        (hub.unsubscribe key sink.id).2) := by
  have apart : Opcode.unsubscribe.byte ≠ 0x31 := by decide
  have other : Opcode.unsubscribe.byte ≠ 0x33 := by decide
  rw [answer, if_neg apart, text]
  dsimp only
  rw [if_neg other]
  rcases hub.unsubscribe key sink.id with ⟨_ | _ | _, _⟩ <;> rfl

end Answer

namespace Switchboard

/-- One request of a session at a time. -/
theorem serveArrivals_eq (board : Switchboard) (handle : Handle) (arrivals : List Arrival) :
    board.serveArrivals handle arrivals =
      match nextRequest (board.phase handle = .disconnected ∨ board.stopping) arrivals with
      | .waiting =>
        (.waiting, board.edit handle fun session => { session with arrivals := arrivals })
      | .closed =>
        (.over (.ok ()), board.edit handle fun session => { session with arrivals := [.ended] })
      | .failed error =>
        (.over (.error error),
          board.edit handle fun session => { session with arrivals := [.ended] })
      | .malformed opcode rest =>
        (board.respond handle ⟨opcode, .badRequest⟩).serveArrivals handle rest
      | .request request rest =>
        match board.apply handle request with
        | (true, board) => board.serveArrivals handle rest
        | (false, board) =>
          (.over (.ok ()), board.edit handle fun session => { session with arrivals := rest }) := by
  rw [serveArrivals]
  split
  case h_5 request rest next =>
    rcases applied : board.apply handle request with ⟨_ | _, _⟩
    · simp only [next, applied]
    · simp only [next, applied]
  all_goals simp only [*]

variable {board : Switchboard} {handle : Handle} {session : Record} {arrivals : List Arrival}

/-- The board after a service: what the session read and answered, and the hub. -/
def served (board : Switchboard) (handle : Handle) (service : Service) (unread : List Arrival) :
    Switchboard :=
  { board with hub := service.hub }.edit handle fun session =>
    { session with arrivals := unread, replies := session.replies ++ service.replies }

/-- The board after one answer. -/
def answered (board : Switchboard) (handle : Handle) (hub : Hub) (opcode digit : UInt8) :
    Switchboard :=
  { board with hub := hub }.edit handle fun session =>
    { session with replies := session.replies ++ [opcode, digit] }

theorem session?_answered (present : board.session? handle = some session) (hub : Hub)
    (opcode digit : UInt8) :
    (board.answered handle hub opcode digit).session? handle =
      some { session with replies := session.replies ++ [opcode, digit] } := by
  simp only [session?] at present
  simp only [answered, edit, session?, List.getElem?_modify, present, ↓reduceIte]
  rfl

theorem served_answered (board : Switchboard) (handle : Handle) (hub : Hub) (opcode digit : UInt8)
    (service : Service) (unread : List Arrival) :
    (board.answered handle hub opcode digit).served handle service unread =
      board.served handle { service with replies := opcode :: digit :: service.replies }
        unread := by
  simp only [served, answered, edit, List.modify_modify_eq]
  congr 2
  funext session
  simp

/-- A service without an answer only ends the reading. -/
theorem served_silent (board : Switchboard) (handle : Handle) (result : Except Error Unit)
    (unread : List Arrival) :
    board.served handle ⟨result, [], board.hub⟩ unread =
      board.edit handle fun session => { session with arrivals := unread } := by
  simp only [served, List.append_nil]

theorem next_of_active (present : board.session? handle = some session)
    (active : session.phase = .active) (running : board.stopping = false)
    (arrivals : List Arrival) :
    nextRequest (board.phase handle = .disconnected ∨ board.stopping) arrivals =
      nextRequest false arrivals := by
  have going : ¬ (board.phase handle = .disconnected ∨ board.stopping = true) := by
    simp [phase, present, active, running]
  rw [decide_eq_false going]

/-- A frame after which the session goes on is answered with the digit of the reference. -/
theorem serveArrivals_frame (present : board.session? handle = some session)
    (active : session.phase = .active) (running : board.stopping = false)
    {opcode : Opcode} {rest : Bytes} (goes : opcode ≠ .disconnect)
    (delivers : Delivers arrivals (opcode.byte :: rest))
    (enough : opcode.payloadLength ≤ rest.length) (ending : List Arrival) :
    let answer := answer session.sink board.hub opcode.byte (rest.take opcode.payloadLength)
    ∃ unread, Delivers unread (rest.drop opcode.payloadLength) ∧
      board.serveArrivals handle (arrivals ++ ending) =
        (board.answered handle answer.2 opcode.byte answer.1).serveArrivals handle
          (unread ++ ending) := by
  obtain ⟨unread, left, next⟩ :=
    nextRequest_of_le delivers (Opcode.ofByte?_byte opcode) enough ending
  have size : (rest.take opcode.payloadLength).length = opcode.payloadLength :=
    List.length_take_of_le enough
  refine ⟨unread, left, ?_⟩
  rw [serveArrivals_eq, next_of_active present active running, next]
  generalize rest.take opcode.payloadLength = payload at size
  unfold decodeRequest
  rw [if_neg (not_not_intro size)]
  cases opcode with
  | disconnect => exact absurd rfl goes
  | connect => rfl
  | subscribe =>
    dsimp only
    cases text : decode? (payload.takeWhile (· ≠ 0)) with
    | none =>
      rw [answer_of_not_text _ _ _ text, decodeField, text]
      rfl
    | some key =>
      rw [answer_subscribe _ _ text, decodeField, text]
      simp only [Except.map, apply, present]
      rfl
  | unsubscribe =>
    dsimp only
    cases text : decode? (payload.takeWhile (· ≠ 0)) with
    | none =>
      rw [answer_of_not_text _ _ _ text, decodeField, text]
      rfl
    | some key =>
      rw [answer_unsubscribe _ _ text, decodeField, text]
      simp only [Except.map, apply, present]
      rfl

theorem serveArrivals_disconnect (present : board.session? handle = some session)
    (active : session.phase = .active) (running : board.stopping = false) {rest : Bytes}
    (delivers : Delivers arrivals (Opcode.disconnect.byte :: rest)) (ending : List Arrival) :
    ∃ unread, board.serveArrivals handle (arrivals ++ ending) =
      (.over (.ok ()), board.served handle ⟨.ok (), [0x32, 0x30], board.hub⟩ unread) := by
  obtain ⟨unread, -, next⟩ :=
    nextRequest_of_le delivers (Opcode.ofByte?_byte .disconnect) (Nat.zero_le _) ending
  refine ⟨unread ++ ending, ?_⟩
  rw [serveArrivals_eq, next_of_active present active running, next]
  have decoded : decodeRequest .disconnect (rest.take Opcode.disconnect.payloadLength) =
      .ok .disconnect := rfl
  rw [decoded]
  simp only [apply, present, respond, edit, List.modify_modify_eq]
  rfl

/-- Serving is interpreting, for every state of the board. The induction is on the bytes that are
left; a frame that is answered leaves fewer and a board on which the session is still active. -/
theorem serveArrivals_eq_interpret (present : board.session? handle = some session)
    (active : session.phase = .active) (running : board.stopping = false) {bytes : Bytes}
    (delivers : Delivers arrivals bytes) :
    ∃ unread, board.serveArrivals handle (arrivals ++ [.ended]) =
      (.over (interpret session.sink board.hub bytes).result,
        board.served handle (interpret session.sink board.hub bytes) unread) := by
  induction left : bytes.length using Nat.strongRecOn
    generalizing board session arrivals bytes with
  | ind count ih =>
  cases bytes with
  | nil =>
    refine ⟨[.ended], ?_⟩
    rw [serveArrivals_eq, next_of_active present active running, nextRequest_of_nil delivers,
      interpret, served_silent]
  | cons first rest =>
    cases known : Opcode.ofByte? first with
    | none =>
      refine ⟨[.ended], ?_⟩
      rw [serveArrivals_eq, next_of_active present active running,
        nextRequest_of_unknown delivers known, interpret_unknown _ _ known, served_silent]
    | some opcode =>
      obtain rfl := Opcode.ofByte?_eq_some_iff.mp known
      rw [interpret_byte]
      by_cases few : rest.length < opcode.payloadLength
      · refine ⟨[.ended], ?_⟩
        rw [if_pos few, serveArrivals_eq, next_of_active present active running,
          nextRequest_of_lt delivers known few, served_silent]
      · rw [if_neg few]
        by_cases last : opcode = .disconnect
        · subst last
          exact serveArrivals_disconnect present active running delivers [.ended]
        · obtain ⟨unread, behind, step⟩ := serveArrivals_frame present active running last delivers
            (Nat.le_of_not_lt few) [.ended]
          have fewer : (rest.drop opcode.payloadLength).length < count := by
            rw [← left, List.length_drop, List.length_cons]
            omega
          obtain ⟨later, served⟩ := ih _ fewer (session?_answered present _ opcode.byte _) active
            running behind rfl
          refine ⟨later, ?_⟩
          rw [if_neg last, step, served, served_answered]
          rfl

/-- An active session whose channel brings some bytes and then ends is served as the bytes are
interpreted, for every state of the store, in whatever chunks and after whatever retries the bytes
come. How the serving ends, what is answered and what becomes of the hub depend on the bytes alone;
beyond that only what the session has left unread changes. -/
theorem serve_eq_interpret {bytes : Bytes} (present : board.session? handle = some session)
    (active : session.phase = .active) (running : board.stopping = false)
    (delivers : Delivers arrivals bytes) (arrived : session.arrivals = arrivals ++ [.ended]) :
    let service := interpret session.sink board.hub bytes
    ∃ unread, board.serve handle =
      (.over service.result,
        { board with hub := service.hub }.edit handle fun record =>
          { record with arrivals := unread, replies := record.replies ++ service.replies }) := by
  rw [serve, present]
  dsimp only
  rw [arrived]
  exact serveArrivals_eq_interpret present active running delivers

/-- A subscription in two chunks with the disconnection behind it. -/
theorem serve_eq_interpret_of_split_frame :
    let hub := ((Hub.empty 4).write [("a", "1")]).hub
    let arrivals := [.chunk [0x33, 0x61], .idle, .chunk (0 :: (List.replicate 38 0 ++ [0x32]))]
    let session : Record := ⟨1, .active, 0, true, arrivals ++ [.ended], [], []⟩
    let board : Switchboard := ⟨hub, [session], [], 2, false⟩
    ∃ unread, board.serve 0 =
      (.over (.ok ()),
        { board with hub := (hub.subscribe "a" ⟨1, .mailbox 0⟩).2 }.edit 0 fun record =>
          { record with
            arrivals := unread, replies := record.replies ++ [0x33, 0x30, 0x32, 0x30] }) := by
  intro hub arrivals session board
  let text : Bytes := [0x61] ++ (0 :: (List.replicate 38 0 ++ [0x32]) ++ [])
  have delivers : Delivers arrivals (Opcode.subscribe.byte :: text) :=
    .chunk 0x33 [0x61] (.idle (.chunk 0 (List.replicate 38 0 ++ [0x32]) .nil))
  have digit : answer session.sink hub Opcode.subscribe.byte (text.take 40) =
      (0x30, (hub.subscribe "a" session.sink).2) := by decide +kernel
  have last : interpret session.sink (hub.subscribe "a" session.sink).2 (text.drop 40) =
      ⟨.ok (), [0x32, 0x30], (hub.subscribe "a" session.sink).2⟩ :=
    interpret_byte session.sink _ .disconnect []
  have service : interpret session.sink hub (Opcode.subscribe.byte :: text) =
      ⟨.ok (), [0x33, 0x30, 0x32, 0x30], (hub.subscribe "a" session.sink).2⟩ := by
    have whole : ¬ text.length < Opcode.subscribe.payloadLength := by decide
    rw [interpret_byte, if_neg whole, if_neg (by decide)]
    simp only [Opcode.payloadLength, fieldSize, digit, last]
    rfl
  have served := @serve_eq_interpret board 0 session arrivals _ rfl rfl rfl delivers rfl
  simp only [board, service] at served
  exact served

end Switchboard

end WatchedStore.Session
