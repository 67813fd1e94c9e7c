import WatchedStore.ByteSource
import WatchedStore.Subscribers
import WatchedStore.Wire.Request
import WatchedStore.Writer

/-! # Responses

The server answers each request with two bytes: the opcode of the request and a status, both ASCII
digits. The outcomes of subscribing and unsubscribing map to the statuses; that a key was subscribed
already counts as success.
-/

namespace WatchedStore.Wire

/-- The bytes of a response. -/
def responseSize : Nat := 2

/-- How a request went. -/
inductive Status
  | ok
  | notFound
  | limitReached
  | badRequest
deriving DecidableEq, Repr

namespace Status

/-- The digit that stands for a status. -/
def byte : Status → UInt8
  | ok => 0x30
  | notFound => 0x31
  | limitReached => 0x32
  | badRequest => 0x33

/-- The status that a byte stands for. -/
def ofByte? (b : UInt8) : Option Status :=
  if b = 0x30 then some ok
  else if b = 0x31 then some notFound
  else if b = 0x32 then some limitReached
  else if b = 0x33 then some badRequest
  else none

/-- The name of a status in messages. -/
def name : Status → String
  | ok => "Ok"
  | notFound => "NotFound"
  | limitReached => "LimitReached"
  | badRequest => "BadRequest"

/-- The error that a status stands for, for a request about a key. -/
def toResult (status : Status) (key : String) : Except Error Unit :=
  match status with
  | ok => .ok ()
  | notFound => .error (.keyNotFound key)
  | limitReached => .error (.subscriberLimit key)
  | badRequest => .error (.protocol (.requestRejected key))

/-- The status for the outcome of subscribing. -/
def ofSubscribe : SubscribeOutcome → Status
  | .subscribed => ok
  | .alreadySubscribed => ok
  | .keyNotFound => notFound
  | .limitReached => limitReached

/-- The status for the outcome of unsubscribing. -/
def ofUnsubscribe : UnsubscribeOutcome → Status
  | .removed => ok
  | .notSubscribed => notFound
  | .keyNotFound => notFound

@[simp] theorem ofByte?_byte (status : Status) : ofByte? status.byte = some status := by
  cases status <;> rfl

end Status

/-- The status of a byte that has to be one. -/
def decodeStatus (byte : UInt8) : Except Error Status :=
  match Status.ofByte? byte with
  | some status => .ok status
  | none => .error (.protocol (.unknownStatus byte))

/-- The answer to a request. -/
structure Response where
  opcode : Opcode
  status : Status
deriving DecidableEq, Repr

/-- The frame of a response. -/
def encodeResponse (response : Response) : Bytes := [response.opcode.byte, response.status.byte]

/-- The response of a frame. -/
def decodeResponse (frame : Bytes) : Except Error Response := do
  let opcode ← decodeOpcode (frame.headD 0)
  let status ← decodeStatus (frame.tail.headD 0)
  return ⟨opcode, status⟩

/-- Reads one response. -/
def readResponse (source : ByteSource) : Except Error Response × ByteSource :=
  match source.readExact responseSize with
  | (.error failure, source) => (.error (.io failure), source)
  | (.ok frame, source) => (decodeResponse frame, source)

/-- Writes a response and flushes. -/
def writeResponse (writer : Writer) (response : Response) : Except Error Unit × Writer :=
  let (result, writer) := writer.putFlushed (encodeResponse response)
  (result.mapError .io, writer)

end WatchedStore.Wire
