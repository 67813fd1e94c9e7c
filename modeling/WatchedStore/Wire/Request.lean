import WatchedStore.ByteSource
import WatchedStore.Wire.Field

/-! # Frames that clients send

A session starts with one CONNECT frame on the rendezvous channel, which names the three channels
that the client listens on. Requests follow on the request channel: an opcode, and for subscribing
and unsubscribing a field with the key.
-/

namespace WatchedStore.Wire

/-- The bytes of a CONNECT frame. -/
def connectSize : Nat := 1 + 3 * fieldSize

/-- The names of the channels that a client listens on. -/
structure ConnectRequest where
  /-- Where the client writes its requests. -/
  request : String
  /-- Where the client reads the responses. -/
  response : String
  /-- Where the client reads the notifications. -/
  notification : String
deriving DecidableEq, Repr

/-- A request of a running session. -/
inductive Request
  | subscribe (key : String)
  | unsubscribe (key : String)
  | disconnect
deriving DecidableEq, Repr

/-- The opcode of a request. -/
def Request.opcode : Request → Opcode
  | subscribe _ => .subscribe
  | unsubscribe _ => .unsubscribe
  | disconnect => .disconnect

/-- The opcode of a byte that has to be one. -/
def decodeOpcode (byte : UInt8) : Except Error Opcode :=
  match Opcode.ofByte? byte with
  | some opcode => .ok opcode
  | none => .error (.protocol (.unknownOpcode byte))

/-- The CONNECT frame for three channels. -/
def encodeConnect (channels : ConnectRequest) : Except Error Bytes := do
  let request ← encodeField channels.request
  let response ← encodeField channels.response
  let notification ← encodeField channels.notification
  return Opcode.connect.byte :: request ++ response ++ notification

/-- The three channels of a CONNECT frame. -/
def decodeConnect (frame : Bytes) : Except Error ConnectRequest :=
  match frame with
  | [] => .error (.protocol (.connectSize 0))
  | byte :: fields =>
    if (byte :: fields).length ≠ connectSize then
      .error (.protocol (.connectSize (byte :: fields).length))
    else do
      let opcode ← decodeOpcode byte
      if opcode ≠ .connect then throw (.protocol (.notConnect byte))
      let request ← decodeField (fields.take fieldSize)
      let response ← decodeField ((fields.drop fieldSize).take fieldSize)
      let notification ← decodeField (fields.drop (2 * fieldSize))
      if request = "" ∨ response = "" ∨ notification = "" then throw (.protocol .emptyChannel)
      return ⟨request, response, notification⟩

/-- The frame of a request. -/
def encodeRequest : Request → Except Error Bytes
  | .subscribe key => (encodeField key).map (Opcode.subscribe.byte :: ·)
  | .unsubscribe key => (encodeField key).map (Opcode.unsubscribe.byte :: ·)
  | .disconnect => .ok [Opcode.disconnect.byte]

/-- The request of an opcode with its payload. -/
def decodeRequest (opcode : Opcode) (payload : Bytes) : Except Error Request :=
  if payload.length ≠ opcode.payloadLength then
    .error (.protocol (.payloadSize opcode payload.length))
  else
    match opcode with
    | .subscribe => (decodeField payload).map .subscribe
    | .unsubscribe => (decodeField payload).map .unsubscribe
    | .disconnect => .ok .disconnect
    | .connect => .error (.protocol .connectAsRequest)

/-- Reads one request; none when the stream ends in front of it. -/
def readRequest (source : ByteSource) : Except Error (Option Request) × ByteSource :=
  match source.readExact 1 with
  | (.error failure, source) =>
    (if failure.kind = .unexpectedEnd then .ok none else .error (.io failure), source)
  | (.ok first, source) =>
    match decodeOpcode (first.headD 0) with
    | .error error => (.error error, source)
    | .ok opcode =>
      match source.readExact opcode.payloadLength with
      | (.error failure, source) => (.error (.io failure), source)
      | (.ok payload, source) => ((decodeRequest opcode payload).map some, source)

end WatchedStore.Wire
