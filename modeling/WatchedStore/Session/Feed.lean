import WatchedStore.Session.Channel
import WatchedStore.Wire.Notice

/-! # The notification feed of a client

Notifications arrive in chunks of any size. A feed keeps the bytes of a frame that is not complete
yet, and no read goes beyond that frame. A wait may have a deadline, which can expire between any
two reads, also inside a frame; the bytes kept are then still there for the next wait. A frame that
does not decode is reported once and the next frame follows behind it.
-/

namespace WatchedStore.Session

open WatchedStore.Wire

/-- What a wait for a notification comes to. -/
inductive Receipt
  | notice (note : Notice)
  /-- A frame that does not decode. -/
  | malformed (error : Error)
  | timedOut
  /-- The channel brings no more frames. -/
  | closed (cause : ClosedCause)
  | failed (failure : IoFailure)
  /-- Without a deadline: more has to arrive. -/
  | waiting
deriving DecidableEq, Repr

namespace Receipt

/-- What a complete frame comes to. -/
def ofFrame (frame : Bytes) : Receipt :=
  match decodeNotice frame with
  | .ok note => notice note
  | .error error => malformed error

/-- What a failing read comes to: a peer that went away closes the channel. -/
def ofFailure (failure : IoFailure) : Receipt :=
  if (Error.io failure).isDisconnect then closed (.noticesFailed failure) else failed failure

/-- The result of a wait without a deadline, with none for a closed channel; nothing while it goes
on. -/
def toResult : Receipt → Option (Except Error (Option Notice))
  | notice note => some (.ok (some note))
  | malformed error => some (.error error)
  | closed _ => some (.ok none)
  | failed failure => some (.error (.io failure))
  | timedOut => none
  | waiting => none

/-- The result of a wait with a deadline, with none for one that expired. -/
def toTimedResult : Receipt → Except Error (Option Notice)
  | notice note => .ok (some note)
  | malformed error => .error error
  | closed cause => .error (.channelClosed cause)
  | failed failure => .error (.io failure)
  | timedOut => .ok none
  | waiting => .ok none

end Receipt

/-- The bytes of an incomplete frame, and what arrives behind them. -/
structure Feed where
  kept : Bytes
  arrivals : List Arrival
deriving DecidableEq, Repr

namespace Feed

/-- A channel from which nothing has been read. -/
def ofArrivals (arrivals : List Arrival) : Feed := ⟨[], arrivals⟩

/-- Waits for the rest of a frame. The patience is the number of reads before the deadline; none
when there is no deadline. -/
def gather (patience : Option Nat) (kept : Bytes) : List Arrival → Receipt × Feed
  | [] =>
    if noticeSize ≤ kept.length then (.ofFrame kept, ⟨[], []⟩)
    else (if patience.isSome then .timedOut else .waiting, ⟨kept, []⟩)
  | arrival :: rest =>
    if noticeSize ≤ kept.length then (.ofFrame kept, ⟨[], arrival :: rest⟩)
    else if patience = some 0 then (.timedOut, ⟨kept, arrival :: rest⟩)
    else
      match arrival with
      | .idle => gather (patience.map (· - 1)) kept rest
      | .ended => (.closed .noticesEnded, ⟨kept, .ended :: rest⟩)
      | .broken failure => (.ofFailure failure, ⟨kept, .broken failure :: rest⟩)
      | .chunk [] => (.closed .noticesEnded, ⟨kept, .ended :: rest⟩)
      | .chunk (byte :: bytes) =>
        let block := byte :: bytes
        let wanted := noticeSize - kept.length
        if block.length ≤ wanted then gather (patience.map (· - 1)) (kept ++ block) rest
        else (.ofFrame (kept ++ block.take wanted), ⟨[], .chunk (block.drop wanted) :: rest⟩)

/-- Waits for the next notification. -/
def next (patience : Option Nat) (feed : Feed) : Receipt × Feed :=
  gather patience feed.kept feed.arrivals

/-- The notifications that are there, at most `most` of them and up to the first frame that does not
decode, and whether the channel closes behind them. -/
def take (feed : Feed) : Nat → List Notice × Bool
  | 0 => ([], false)
  | most + 1 =>
    match feed.next none with
    | (.notice note, rest) =>
      let (notes, closed) := take rest most
      (note :: notes, closed)
    | (.closed _, _) => ([], true)
    | _ => ([], false)

end Feed

end WatchedStore.Session
