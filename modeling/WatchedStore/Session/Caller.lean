import WatchedStore.Session.Feed
import WatchedStore.Session.Rendezvous

/-! # Callers

The client's side of a session. A caller dials the rendezvous, sends the names of its channels and
waits for the answer; from then on each call sends one request and reads one response, so calls
never overlap. A key that does not fit a field fails before a byte is sent. A read from a session
that is closed fails like one from a stream that ended.
-/

namespace WatchedStore.Session

open WatchedStore.Wire

namespace Switchboard

/-- Reads one response of a session; none while it has not been given. -/
def readResponse? (board : Switchboard) (handle : Handle) :
    Option (Except Error Response × Switchboard) :=
  let (bytes, rest) := board.takeReplies handle responseSize
  if bytes.length = responseSize ∨ board.phase handle = .disconnected then
    some ((readResponse (.ofBytes bytes)).1, rest)
  else none

end Switchboard

/-- The status that a response carries for a request. -/
def replyTo (asked : Opcode) (response : Response) : Except Error Status :=
  if response.opcode = asked then .ok response.status
  else .error (.protocol (.wrongReply asked response.opcode))

/-- Whether a response says that a session is running. -/
def acknowledges (response : Response) : Except Error Unit :=
  if response = ⟨.connect, .ok⟩ then .ok ()
  else .error (.protocol (.connectReply response.opcode response.status.name))

namespace Rendezvous

/-- A client announces its channels to the server at an address. -/
def dial (rendezvous : Rendezvous) (host : Host) (address : String) (channels : ConnectRequest) :
    Except Error Handle × Rendezvous :=
  match host.dialAt address with
  | some failure => (.error (.start (.cannotReach failure)), rendezvous)
  | none =>
    match encodeConnect channels with
    | .error error => (.error error, rendezvous)
    | .ok frame =>
      match rendezvous.handshake host (.ofBytes frame) with
      | (.ok handle, rendezvous) => (.ok handle, rendezvous)
      | (.error _, rendezvous) => (.error (.start .channelsNotOpened), rendezvous)

/-- The client reads the answer to CONNECT; none while no worker has taken its session up. -/
def acknowledged? (rendezvous : Rendezvous) (handle : Handle) :
    Option (Except Error Unit × Rendezvous) :=
  (rendezvous.board.readResponse? handle).map fun (response, board) =>
    (response.bind acknowledges, rendezvous.withBoard board)

/-- The client sends bytes on its request channel, and the session acts on them. -/
def send (rendezvous : Rendezvous) (handle : Handle) (arrivals : List Arrival) : Rendezvous :=
  (rendezvous.withBoard (rendezvous.board.arrive handle arrivals)).settle

/-- The client sends a request and reads the response; none while there is no response. -/
def call? (rendezvous : Rendezvous) (handle : Handle) (request : Request) :
    Option (Except Error Status × Rendezvous) :=
  match encodeRequest request with
  | .error error => some (.error error, rendezvous)
  | .ok frame =>
    let sent := rendezvous.send handle [.chunk frame]
    (sent.board.readResponse? handle).map fun (response, board) =>
      (response.bind (replyTo request.opcode), sent.withBoard board)

/-- The client ends its session. That the session is over already is no error. -/
def leave? (rendezvous : Rendezvous) (handle : Handle) : Option (Except Error Unit × Rendezvous) :=
  (rendezvous.call? handle .disconnect).map fun (status, rendezvous) =>
    match status with
    | .ok _ => (.ok (), rendezvous)
    | .error error => (if error.isDisconnect then .ok () else .error error, rendezvous)

/-- The client goes away without a word. -/
def hangUp (rendezvous : Rendezvous) (handle : Handle) : Rendezvous :=
  rendezvous.send handle [.ended]

/-- What a client has been notified of since it last looked, behind the bytes that it kept. -/
def notices (rendezvous : Rendezvous) (handle : Handle) (kept : Bytes) : Feed × Rendezvous :=
  let size := ((rendezvous.board.session? handle).map fun s => s.notices.length).getD 0
  let (bytes, board) := rendezvous.board.takeNotices handle size
  let closing : List Arrival :=
    if board.phase handle = .disconnected then [.ended] else []
  let arrived : List Arrival := if bytes = [] then closing else .chunk bytes :: closing
  (⟨kept, arrived⟩, rendezvous.withBoard board)

end Rendezvous

end WatchedStore.Session
