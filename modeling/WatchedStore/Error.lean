import WatchedStore.Text.Quoted
import WatchedStore.Wire.Opcode

/-! # What can go wrong

An error names its cause; the wording is decided in one place, `Error.message`. The causes fall into
families: failures of a byte stream or file, refused keys and values, script lines that say nothing,
limits, closed channels, frames that break the wire format, and a start that cannot go ahead. Each
family that a caller may extend has a constructor `stated` for a cause in the caller's own words.
-/

namespace WatchedStore

open WatchedStore.Text

/-- The kinds of stream failure that are told apart. -/
inductive IoKind
  | unexpectedEnd
  | connectionReset
  | connectionAborted
  | brokenPipe
  | notConnected
  | wouldBlock
  | timedOut
  | interrupted
  | other
deriving DecidableEq, Repr

/-- A failure of a stream or of the file system. -/
inductive IoFailure
  /-- Reported by the operating system under its error number. -/
  | os (code : Nat)
  /-- Found by the program. -/
  | stated (kind : IoKind) (text : String)
deriving DecidableEq, Repr

namespace IoFailure

/-- The kind of a failure; the numbers of the operating system fall into kinds as well. -/
def kind : IoFailure → IoKind
  | stated kind _ => kind
  | os code =>
    if code = 4 then .interrupted
    else if code = 11 then .wouldBlock
    else if code = 32 then .brokenPipe
    else if code = 103 then .connectionAborted
    else if code = 104 then .connectionReset
    else if code = 107 then .notConnected
    else if code = 110 then .timedOut
    else .other

/-- The words for a failure. -/
def text : IoFailure → String
  | stated _ text => text
  | os code => s!"os error {code}"

/-- A stream ended inside a block of fixed size. -/
def shortRead : IoFailure := stated .unexpectedEnd "failed to fill whole buffer"

/-- A writer accepted no more bytes. -/
def shortWrite : IoFailure := stated .other "failed to write whole buffer"

/-- A line of a script is not UTF-8. -/
def notText : IoFailure := stated .other "stream did not contain valid UTF-8"

/-- A file name holds a NUL, which no file system call can pass on. -/
def nulInName : IoFailure := stated .other "file name contained an unexpected NUL byte"

end IoFailure

/-- Why a key or a value is refused. -/
inductive TextFault
  | empty
  | tooLong
  | control
  | reserved
  | firstCharacter
  | stated (text : String)
deriving DecidableEq, Repr

/-- The words for a refused key or value. -/
def TextFault.text : TextFault → String
  | empty => "must not be empty"
  | tooLong => "longer than 40 bytes"
  | control => "contains control characters"
  | reserved => "contains one of ( ) [ ] ,"
  | firstCharacter => "first character must be a letter or a digit"
  | stated text => text

/-- Why a script line is no operation. -/
inductive LineFault
  | notADelay (rest : String)
  | takesNoArguments (command : String)
  | unknownCommand (command : String)
  | notAList (rest : String)
  | emptyKeyList
  | emptyKey
  | noPairAt (rest : String)
  | unterminatedPair
  | missingValue (body : String)
  | emptySide (key value : String)
  | emptyPairList
  | stated (text : String)
deriving DecidableEq, Repr

/-- The words for a script line that is no operation. -/
def LineFault.text : LineFault → String
  | notADelay rest => "WAIT expects a delay in milliseconds, got " ++ quote rest
  | takesNoArguments command => command ++ " takes no arguments"
  | unknownCommand command => "unknown command " ++ quote command
  | notAList rest => "expected a [...] list, got " ++ quote rest
  | emptyKeyList => "empty key list"
  | emptyKey => "empty key in list"
  | noPairAt rest => "expected '(' at " ++ quote rest
  | unterminatedPair => "unterminated pair"
  | missingValue body => "pair " ++ quote body ++ " is missing a value"
  | emptySide key value => "pair (" ++ key ++ "," ++ value ++ ") has an empty side"
  | emptyPairList => "empty pair list"
  | stated text => text

/-- Why a channel counts as closed. -/
inductive ClosedCause
  | sinkClosed (id : Nat)
  | sinkBroken
  | beforeActivation (session : Nat)
  | noticesEnded
  | noticesFailed (failure : IoFailure)
  | stated (text : String)
deriving DecidableEq, Repr

/-- The words for a closed channel. -/
def ClosedCause.text : ClosedCause → String
  | sinkClosed id => s!"notification sink {id} is closed"
  | sinkBroken => "broken"
  | beforeActivation session => s!"session {session} was closed before activation"
  | noticesEnded => "notification channel"
  | noticesFailed failure => "notification channel: IO error: " ++ failure.text
  | stated text => text

/-- A byte in hexadecimal, two lower-case digits after `0x`. -/
def hexByte (b : UInt8) : String :=
  let digits := Nat.toDigits 16 b.toNat
  String.ofList ('0' :: 'x' :: List.replicate (2 - digits.length) '0' ++ digits)

/-- How a frame breaks the wire format. -/
inductive FrameFault
  | fieldTooLong (size : Nat)
  | fieldHasNul
  | fieldNotText
  | connectSize (size : Nat)
  | notConnect (byte : UInt8)
  | emptyChannel
  | unknownOpcode (byte : UInt8)
  | payloadSize (opcode : Wire.Opcode) (size : Nat)
  | connectAsRequest
  | unknownStatus (byte : UInt8)
  | requestRejected (key : String)
  | noticeTooLong (size : Nat)
  | malformedNotice (text : String)
  | connectReply (opcode : Wire.Opcode) (status : String)
  | wrongReply (asked answered : Wire.Opcode)
  | stated (text : String)
deriving DecidableEq, Repr

/-- The words for a broken frame. -/
def FrameFault.text : FrameFault → String
  | fieldTooLong size => s!"Field too long: {size} bytes (max 40)"
  | fieldHasNul => "Field contains a NUL byte"
  | fieldNotText => "Field is not valid UTF-8"
  | connectSize size => s!"CONNECT frame: expected 121 bytes, got {size}"
  | notConnect byte => "Expected CONNECT, got opcode " ++ hexByte byte
  | emptyChannel => "CONNECT frame: empty channel identifier"
  | unknownOpcode byte => "Unknown opcode: " ++ hexByte byte
  | payloadSize opcode size =>
    s!"{opcode.name} payload: expected {opcode.payloadLength} bytes, got {size}"
  | connectAsRequest => "CONNECT is only valid on the rendezvous channel"
  | unknownStatus byte => "Unknown response status: " ++ hexByte byte
  | requestRejected key => "server rejected the request for " ++ quote key
  | noticeTooLong size => s!"Notification too long: {size} bytes"
  | malformedNotice text => "Malformed notification: " ++ quote text
  | connectReply opcode status =>
    "unexpected CONNECT reply: Response \x7b opcode: " ++ opcode.name ++ ", status: " ++ status ++
      " \x7d"
  | wrongReply asked answered => s!"reply to {asked.name} carried opcode {answered.name}"
  | stated text => text

/-- Why a component cannot start. -/
inductive StartFault
  | backupDirectory (path : String) (failure : IoFailure)
  | cannotBind (address : String) (failure : IoFailure)
  | badChannel (session : Nat) (role address : String)
  | cannotOpen (session : Nat) (role address : String) (failure : IoFailure)
  | cannotReach (failure : IoFailure)
  | channelsNotOpened
  | stated (text : String)
deriving DecidableEq, Repr

/-- The words for a component that cannot start. -/
def StartFault.text : StartFault → String
  | backupDirectory path failure =>
    "cannot create backup directory " ++ path ++ ": " ++ failure.text
  | cannotBind address failure => "cannot bind " ++ address ++ ": " ++ failure.text
  | badChannel session role address =>
    s!"session {session}: bad {role} channel id " ++ quote address
  | cannotOpen session role address failure =>
    s!"session {session}: cannot open {role} channel {address}: " ++ failure.text
  | cannotReach failure => "cannot reach server: " ++ failure.text
  | channelsNotOpened => "server did not open the session channels"
  | stated text => text

/-- Which setting is wrong. -/
inductive SettingFault
  | notPositive (setting : String)
  | backupLimit
  | stated (text : String)
deriving DecidableEq, Repr

/-- The words for a wrong setting. -/
def SettingFault.text : SettingFault → String
  | notPositive setting => setting ++ " must be greater than zero"
  | backupLimit => "backup limit must be greater than zero"
  | stated text => text

/-- Everything that an operation of this library can fail with. -/
inductive Error
  | io (failure : IoFailure)
  | invalidKey (key : String) (fault : TextFault)
  | invalidValue (key : String) (fault : TextFault)
  | parse (line : Nat) (fault : LineFault)
  | keyNotFound (key : String)
  | subscriberLimit (key : String)
  | backupCapacity (limit : Nat)
  | channelClosed (cause : ClosedCause)
  | protocol (fault : FrameFault)
  | start (fault : StartFault)
  | setting (fault : SettingFault)
deriving DecidableEq, Repr

namespace Error

/-- The wording of an error. -/
def message : Error → String
  | io failure => "IO error: " ++ failure.text
  | invalidKey key fault => "Invalid key " ++ quote key ++ ": " ++ fault.text
  | invalidValue key fault => "Invalid value for key " ++ quote key ++ ": " ++ fault.text
  | parse line fault => s!"Parse error on line {line}: " ++ fault.text
  | keyNotFound key => "Key not found: " ++ key
  | subscriberLimit key => "Subscriber limit reached for key " ++ quote key
  | backupCapacity limit => s!"Backup capacity of {limit} concurrent snapshots reached"
  | channelClosed cause => "Channel closed: " ++ cause.text
  | protocol fault => "Protocol error: " ++ fault.text
  | start fault => "Initialization failed: " ++ fault.text
  | setting fault => "Configuration error: " ++ fault.text

/-- Whether the peer went away, as against a mistake on this side. -/
def isDisconnect : Error → Bool
  | channelClosed _ => true
  | io failure =>
    match failure.kind with
    | .unexpectedEnd | .connectionReset | .connectionAborted | .brokenPipe | .notConnected => true
    | .wouldBlock | .timedOut | .interrupted | .other => false
  | _ => false

end Error

end WatchedStore
