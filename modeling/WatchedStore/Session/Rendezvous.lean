import WatchedStore.Session.WorkerPool
import WatchedStore.Settings

/-! # The rendezvous

Clients announce themselves at one address, each with a CONNECT frame that names its channels. A
frame in order becomes an opened session, which goes on to the buffer of the pool; while the
buffer is full the opened sessions are held in the order in which they came. A session that cannot
be opened uses up its identity all the same. Shutting down tears down what is held, what waits and
what is served, in that order.
-/

namespace WatchedStore.Session

open WatchedStore.Wire

/-- Why nobody listens. -/
inductive ListenFailure
  | refused (error : Error)
  /-- Memory cannot hold the buffer or the list of the workers. -/
  | tooLarge
deriving DecidableEq, Repr

/-- The failure as text. -/
def ListenFailure.message : ListenFailure → String
  | refused error => error.message
  | tooLarge => "capacity overflow"

/-- The server side of all sessions. -/
structure Rendezvous where
  pool : WorkerPool
  /-- How many notifications a session queues. -/
  queue : Nat
  /-- The opened sessions that found no room in the buffer, oldest first. -/
  held : List Handle
  isShutdown : Bool
deriving DecidableEq, Repr

namespace Rendezvous

/-- Starts to listen, over a store that is already there. -/
def listen (host : Host) (settings : Settings) (hub : Hub) :
    Except ListenFailure Rendezvous :=
  match settings.validate with
  | .error error => .error (.refused error)
  | .ok () =>
    match host.listenAt settings.listenAddr with
    | some failure => .error (.refused (.start (.cannotBind settings.listenAddr failure)))
    | none =>
      let board := Switchboard.ofHub hub
      match WorkerPool.start? board settings.sessionWorkers settings.sessionBuffer with
      | none => .error .tooLarge
      | some pool =>
        .ok { pool := pool, queue := settings.notificationQueue, held := [], isShutdown := false }

/-- The sessions. -/
def board (rendezvous : Rendezvous) : Switchboard := rendezvous.pool.board

/-- Replaces the sessions. -/
def withBoard (rendezvous : Rendezvous) (board : Switchboard) : Rendezvous :=
  { rendezvous with pool := { rendezvous.pool with board := board } }

/-- The store with its mailboxes. -/
def hub (rendezvous : Rendezvous) : Hub := rendezvous.board.hub

/-- Replaces the store with its mailboxes. -/
def withHub (rendezvous : Rendezvous) (hub : Hub) : Rendezvous :=
  rendezvous.withBoard { rendezvous.board with hub := hub }

/-- How many sessions a forced disconnect would reach. -/
def sessionCount (rendezvous : Rendezvous) : Nat := rendezvous.board.table.length

/-- Moves the oldest held session to the buffer; none when nothing is held or there is no room. -/
def submitHeld? (rendezvous : Rendezvous) : Option Rendezvous :=
  match rendezvous.held with
  | [] => none
  | handle :: rest =>
    (rendezvous.pool.submit? handle).map fun pool =>
      { rendezvous with pool := pool, held := rest }

/-- Moves held sessions on as far as there is room, at most `rounds` of them, each followed by what
the workers do about it. -/
def submitRounds (rendezvous : Rendezvous) : Nat → Rendezvous
  | 0 => rendezvous
  | rounds + 1 =>
    match rendezvous.submitHeld? with
    | none => rendezvous
    | some moved =>
      submitRounds { moved with pool := moved.pool.settle } rounds

/-- Lets everything happen that can happen without the clients. -/
def settle (rendezvous : Rendezvous) : Rendezvous :=
  let settled := { rendezvous with pool := rendezvous.pool.settle }
  settled.submitRounds settled.held.length

/-- Opens the session that a frame asks for. -/
def openFrame (rendezvous : Rendezvous) (host : Host) (frame : Bytes) :
    Except Error Handle × Rendezvous :=
  match decodeConnect frame with
  | .error error => (.error error, rendezvous)
  | .ok channels =>
    let (id, board) := rendezvous.board.allocate
    match board.openSession host id channels rendezvous.queue with
    | .error error => (.error error, rendezvous.withBoard board)
    | .ok (handle, board) =>
      let opened := rendezvous.withBoard board
      (.ok handle, { opened with held := opened.held ++ [handle] })

/-- Reads the frame of a client and opens the session that it asks for. -/
def handshake (rendezvous : Rendezvous) (host : Host) (source : ByteSource) :
    Except Error Handle × Rendezvous :=
  match (source.readExact connectSize).1 with
  | .error failure => (.error (.io failure), rendezvous)
  | .ok frame =>
    let (opened, rendezvous) := rendezvous.openFrame host frame
    (opened, rendezvous.settle)

/-- Closes the sessions that are being served. -/
def disconnectAll (rendezvous : Rendezvous) : Rendezvous :=
  { rendezvous with pool := rendezvous.pool.disconnectAll.2 }.settle

/-- Stops for good. -/
def shutdown (rendezvous : Rendezvous) : Rendezvous :=
  let swept := rendezvous.withBoard (rendezvous.held.foldl Switchboard.finish rendezvous.board)
  { swept with pool := swept.pool.shutdown, held := [], isShutdown := true }

end Rendezvous

end WatchedStore.Session
