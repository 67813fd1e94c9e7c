import WatchedStore.Hub
import WatchedStore.Session.Channel
import WatchedStore.Session.Host
import WatchedStore.Wire.Notice
import WatchedStore.Wire.Response

/-! # Sessions and their table

A session goes from connecting to active to disconnected, or from connecting straight to
disconnected, and never back. The switchboard holds all sessions, the table of those that a forced
disconnect reaches, and the hub that they subscribe to. Disconnecting takes a session out of the
table and out of the subscribers of every key before its channels close, and only the first caller
does it; a worker that comes second still sweeps the subscriptions, since one of its own requests
may have come in between.
-/

namespace WatchedStore.Session

open WatchedStore.Wire

/-- The state of a session. -/
inductive Phase
  | connecting
  | active
  | disconnected
deriving DecidableEq, Repr

/-- The name of a state. -/
def Phase.name : Phase → String
  | connecting => "Connecting"
  | active => "Active"
  | disconnected => "Disconnected"

/-- A session with its ends of the three channels. -/
structure Record where
  id : SinkId
  phase : Phase
  /-- The mailbox that queues its notifications. -/
  slot : Nat
  /-- Whether queued notifications are passed on. -/
  notifying : Bool
  /-- What the client has sent and the session has not read. -/
  arrivals : List Arrival
  /-- What the session has answered and the client has not read. -/
  replies : Bytes
  /-- What the session has notified and the client has not read. -/
  notices : Bytes
deriving DecidableEq, Repr

/-- The sink of a session. -/
def Record.sink (session : Record) : Sink := ⟨session.id, .mailbox session.slot⟩

/-- The number of a session, by the order in which the sessions were opened. -/
abbrev Handle := Nat

/-- All sessions, those that a forced disconnect reaches, and the hub. -/
structure Switchboard where
  hub : Hub
  sessions : List Record
  /-- The registered sessions, with at most one entry for an identity. -/
  table : List (SinkId × Handle)
  nextId : SinkId
  stopping : Bool
deriving DecidableEq, Repr

namespace Switchboard

/-- No session yet; identities count from one. -/
def ofHub (hub : Hub) : Switchboard := ⟨hub, [], [], 1, false⟩

/-- A session. -/
def session? (board : Switchboard) (handle : Handle) : Option Record := board.sessions[handle]?

/-- The state of a session; one that does not exist counts as disconnected. -/
def phase (board : Switchboard) (handle : Handle) : Phase :=
  match board.session? handle with
  | some session => session.phase
  | none => .disconnected

/-- Edits one session. -/
def edit (board : Switchboard) (handle : Handle) (change : Record → Record) : Switchboard :=
  { board with sessions := board.sessions.modify handle change }

/-- The next identity. -/
def allocate (board : Switchboard) : SinkId × Switchboard :=
  (board.nextId, { board with nextId := board.nextId + 1 })

/-- Opens one channel of a client. -/
def openChannel (host : Host) (id : SinkId) (role address : String) : Except Error Unit :=
  match SocketAddress.parse? address with
  | none => .error (.start (.badChannel id role address))
  | some parsed =>
    match host.dial parsed with
    | some failure => .error (.start (.cannotOpen id role address failure))
    | none => .ok ()

/-- Opens the three channels of a client, in the order in which CONNECT names them. -/
def openChannels (host : Host) (id : SinkId) (channels : ConnectRequest) : Except Error Unit := do
  openChannel host id "request" channels.request
  openChannel host id "response" channels.response
  openChannel host id "notification" channels.notification

/-- Adds a connecting session. -/
def add (board : Switchboard) (id : SinkId) (queue : Nat) : Handle × Switchboard :=
  let (slot, hub) := board.hub.openMailbox queue
  (board.sessions.length,
    { board with
      hub := hub, sessions := board.sessions ++ [⟨id, .connecting, slot, false, [], [], []⟩] })

/-- Opens a session for a client. -/
def openSession (board : Switchboard) (host : Host) (id : SinkId) (channels : ConnectRequest)
    (queue : Nat) : Except Error (Handle × Switchboard) :=
  (openChannels host id channels).map fun _ => board.add id queue

/-- Takes an identity out of the table. -/
def unregister (board : Switchboard) (id : SinkId) : Option Handle × Switchboard :=
  (board.table.lookup id, { board with table := board.table.filter fun entry => entry.1 ≠ id })

/-- Enters a session in the table, in the place of an older one with its identity. -/
def register (board : Switchboard) (handle : Handle) : Switchboard :=
  match board.session? handle with
  | none => board
  | some session =>
    let cleared := (board.unregister session.id).2
    { cleared with table := cleared.table ++ [(session.id, handle)] }

/-- Puts a response on the response channel. -/
def respond (board : Switchboard) (handle : Handle) (response : Response) : Switchboard :=
  board.edit handle fun session =>
    { session with replies := session.replies ++ encodeResponse response }

/-- Completes the handshake: from now on notifications are passed on, and CONNECT is answered. -/
def activate (board : Switchboard) (handle : Handle) : Except Error Unit × Switchboard :=
  match board.session? handle with
  | none => (.ok (), board)
  | some session =>
    if session.phase = .connecting then
      let activated := board.edit handle fun session =>
        { session with phase := .active, notifying := true }
      (.ok (), activated.respond handle ⟨.connect, .ok⟩)
    else (.error (.channelClosed (.beforeActivation session.id)), board)

/-- Closes a session unless it is closed, and says whether this call did it. -/
def disconnect (board : Switchboard) (handle : Handle) : Bool × Switchboard :=
  match board.session? handle with
  | none => (false, board)
  | some session =>
    if session.phase = .disconnected then (false, board)
    else
      let closed := board.edit handle fun session =>
        { session with phase := .disconnected, notifying := false }
      let removed := (closed.unregister session.id).2
      (true, { removed with hub := (removed.hub.unsubscribeAll session.id).2 })

/-- Tears a session down: closes it, or sweeps its subscriptions if somebody else closed it. -/
def finish (board : Switchboard) (handle : Handle) : Switchboard :=
  match board.session? handle with
  | none => board
  | some session =>
    let (first, closed) := board.disconnect handle
    let hub := if first then closed.hub else (closed.hub.unsubscribeAll session.id).2
    { closed with hub := hub.closeMailbox session.slot }

/-- Closes sessions one after the other and counts those that were not closed. -/
def disconnectEach (board : Switchboard) : List Handle → Nat × Switchboard
  | [] => (0, board)
  | handle :: rest =>
    let (first, closed) := board.disconnect handle
    let (count, closed) := disconnectEach closed rest
    (if first then count + 1 else count, closed)

/-- Closes every registered session and says how many that were. -/
def disconnectAll (board : Switchboard) : Nat × Switchboard :=
  { board with table := [] }.disconnectEach (board.table.map Prod.snd)

/-- From now on no session is served any further. -/
def stop (board : Switchboard) : Switchboard := { board with stopping := true }

/-- Carries out a request of a session and answers it; the flag says whether the session goes on. -/
def apply (board : Switchboard) (handle : Handle) (request : Request) : Bool × Switchboard :=
  match board.session? handle with
  | none => (false, board)
  | some session =>
    match request with
    | .disconnect => (false, board.respond handle ⟨.disconnect, .ok⟩)
    | .subscribe key =>
      let (outcome, hub) := board.hub.subscribe key session.sink
      (true, { board with hub := hub }.respond handle ⟨.subscribe, .ofSubscribe outcome⟩)
    | .unsubscribe key =>
      let (outcome, hub) := board.hub.unsubscribe key session.id
      (true, { board with hub := hub }.respond handle ⟨.unsubscribe, .ofUnsubscribe outcome⟩)

/-- Passes the queued notifications of a session on to its client. A notification that has no frame
ends the passing on. -/
def passNotices (board : Switchboard) (handle : Handle) : Switchboard :=
  match board.session? handle with
  | none => board
  | some session =>
    if session.notifying then
      let (notes, hub) := board.hub.receive session.slot
        ((board.hub.boxes[session.slot]?.map fun box => box.queued.length).getD 0)
      let frames := notes.map encodeNotice
      let sent := frames.takeWhile fun frame => frame.toOption.isSome
      let bytes := sent.flatMap fun frame => frame.toOption.getD []
      { board with hub := hub }.edit handle fun session =>
        { session with
          notices := session.notices ++ bytes, notifying := sent.length = frames.length }
    else board

/-- Passes on the queued notifications of all sessions. -/
def passAllNotices (board : Switchboard) : Switchboard :=
  (List.range board.sessions.length).foldl passNotices board

end Switchboard

end WatchedStore.Session
