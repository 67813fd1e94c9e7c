import WatchedStore.Session.Switchboard

/-! # Serving a session

A session reads requests and answers each before it reads the next. It ends without an error when
the client disconnects, when the request channel ends, and when the session is to stop; a lost frame
and a failing channel are errors. A payload that does not decode is answered and the session goes
on.
-/

namespace WatchedStore.Session

open WatchedStore.Wire

/-- How serving a session stands. -/
inductive Progress
  /-- Everything that arrived is answered. -/
  | waiting
  /-- The session is over. -/
  | over (result : Except Error Unit)

namespace Switchboard

/-- Serves a session from what has arrived on its request channel. -/
def serveArrivals (board : Switchboard) (handle : Handle) (arrivals : List Arrival) :
    Progress × Switchboard :=
  let stopped := board.phase handle = .disconnected ∨ board.stopping
  let keep (rest : List Arrival) (board : Switchboard) : Switchboard :=
    board.edit handle fun session => { session with arrivals := rest }
  match _next : nextRequest stopped arrivals with
  | .waiting => (.waiting, keep arrivals board)
  | .closed => (.over (.ok ()), keep [.ended] board)
  | .failed error => (.over (.error error), keep [.ended] board)
  | .malformed opcode rest =>
    serveArrivals (board.respond handle ⟨opcode, .badRequest⟩) handle rest
  | .request request rest =>
    match board.apply handle request with
    | (true, board) => serveArrivals board handle rest
    | (false, board) => (.over (.ok ()), keep rest board)
termination_by pendingSize arrivals
decreasing_by
  · exact pendingSize_of_malformed _next
  · exact pendingSize_of_request _next

/-- Serves a session as far as its client lets it. -/
def serve (board : Switchboard) (handle : Handle) : Progress × Switchboard :=
  match board.session? handle with
  | none => (.over (.ok ()), board)
  | some session => board.serveArrivals handle session.arrivals

/-- The client sends bytes, or ends its sending. -/
def arrive (board : Switchboard) (handle : Handle) (arrivals : List Arrival) : Switchboard :=
  board.edit handle fun session => { session with arrivals := session.arrivals ++ arrivals }

/-- The client reads answers, at most `most` bytes. -/
def takeReplies (board : Switchboard) (handle : Handle) (most : Nat) : Bytes × Switchboard :=
  (((board.session? handle).map fun session => session.replies.take most).getD [],
    board.edit handle fun session => { session with replies := session.replies.drop most })

/-- The client reads notifications, at most `most` bytes. -/
def takeNotices (board : Switchboard) (handle : Handle) (most : Nat) : Bytes × Switchboard :=
  (((board.session? handle).map fun session => session.notices.take most).getD [],
    board.edit handle fun session => { session with notices := session.notices.drop most })

end Switchboard

end WatchedStore.Session
