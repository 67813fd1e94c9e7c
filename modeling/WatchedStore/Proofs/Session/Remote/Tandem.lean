import Mathlib.Logic.Function.Basic
import WatchedStore.Proofs.Store.Posting
import WatchedStore.Session.Caller

/-! # Remote clients beside local subscribers

A tandem carries the same calls out twice: clients send them over the wire to a rendezvous, and in
the same order they are made directly on a hub, where each client is a sink with a queue of its own,
under the identity of its session. The store is written on both sides alike. What the clients read,
and what the readers of the local queues take out, is up to each of them.
-/

namespace WatchedStore.Session

open WatchedStore.Wire

/-- How far a client is. -/
inductive ClientStage
  /-- It has not read the answer to CONNECT. -/
  | dialing
  | connected
  | gone
deriving DecidableEq, Repr

/-- Remote clients and local subscribers. -/
structure Tandem where
  remote : Rendezvous
  /-- What was logged on the remote side. -/
  log : List Warning
  /-- The local run and its log. -/
  direct : Change
  stage : Handle → ClientStage
  /-- The bytes that a client has read from its notification channel. -/
  heard : Handle → Bytes
  /-- What the local reader in the place of a client has taken out of its queue. -/
  received : Handle → List Notice

/-- Something that happens on both sides, or to a reader on one. -/
inductive TandemEvent
  | connect (host : Host) (address : String) (channels : ConnectRequest)
  /-- A client looks for the answer to CONNECT. -/
  | acknowledge (handle : Handle)
  | subscribe (handle : Handle) (key : String)
  | unsubscribe (handle : Handle) (key : String)
  | disconnect (handle : Handle)
  | write (pairs : List (String × String))
  | delete (keys : List String)
  /-- The server does what it can without its clients. -/
  | settle
  /-- A client reads from its notification channel, at most `most` bytes. -/
  | hear (handle : Handle) (most : Nat)
  /-- A local reader takes notifications out of its queue, at most `most` of them. -/
  | receive (handle : Handle) (most : Nat)

namespace Tandem

/-- A rendezvous that nobody has dialed, and the local run over the same store. -/
def start (remote : Rendezvous) : Tandem :=
  ⟨remote, [], ⟨remote.hub, []⟩, fun _ => .dialing, fun _ => [], fun _ => []⟩

/-- The session of a client that is connected. -/
def session? (tandem : Tandem) (handle : Handle) : Option Record :=
  if tandem.stage handle = .connected then tandem.remote.board.session? handle else none

/-- The remote side goes on. -/
def onRemote (tandem : Tandem) (remote : Rendezvous) : Tandem := { tandem with remote := remote }

/-- The hub of the local run goes on. -/
def onDirect (tandem : Tandem) (hub : Hub) : Tandem :=
  { tandem with direct := ⟨hub, tandem.direct.warnings⟩ }

/-- Both hubs have gone through a batch. -/
def afterBatch (tandem : Tandem) (remote direct : Change) : Tandem :=
  { tandem.onRemote (tandem.remote.withHub remote.hub) with
    log := remote.warnings, direct := direct }

/-- A client comes to another stage. -/
def moveTo (tandem : Tandem) (handle : Handle) (stage : ClientStage) : Tandem :=
  { tandem with stage := Function.update tandem.stage handle stage }

theorem stage_moveTo (tandem : Tandem) (handle other : Handle) (stage : ClientStage) :
    (tandem.moveTo handle stage).stage other =
      if other = handle then stage else tandem.stage other :=
  Function.update_apply ..

/-- A client calls its session; without an answer nothing happens. -/
def call (tandem : Tandem) (handle : Handle) (request : Request) : Tandem :=
  tandem.onRemote (((tandem.remote.call? handle request).map Prod.snd).getD tandem.remote)

/-- A step of both sides. Only a client that is connected calls its session. A key that cannot be
sent is not subscribed on the local side. -/
def step (tandem : Tandem) : TandemEvent → Tandem
  | .connect host address channels =>
    match tandem.remote.dial host address channels with
    | (.ok _, remote) =>
      (tandem.onRemote remote).onDirect (tandem.direct.hub.openMailbox tandem.remote.queue).2
    | (.error _, remote) => tandem.onRemote remote
  | .acknowledge handle =>
    if tandem.stage handle = .dialing then
      match tandem.remote.acknowledged? handle with
      | some (.ok (), remote) =>
        (tandem.onRemote remote).moveTo handle .connected
      | _ => tandem
    else tandem
  | .subscribe handle key =>
    match tandem.session? handle with
    | none => tandem
    | some session =>
      let called := tandem.call handle (.subscribe key)
      if IsSendable key then called.onDirect (tandem.direct.hub.subscribe key session.sink).2
      else called
  | .unsubscribe handle key =>
    match tandem.session? handle with
    | none => tandem
    | some session =>
      let called := tandem.call handle (.unsubscribe key)
      if IsSendable key then called.onDirect (tandem.direct.hub.unsubscribe key session.id).2
      else called
  | .disconnect handle =>
    match tandem.session? handle with
    | none => tandem
    | some session =>
      let called := tandem.onRemote
        (((tandem.remote.leave? handle).map Prod.snd).getD tandem.remote)
      (called.onDirect (tandem.direct.hub.unsubscribeAll session.id).2).moveTo handle .gone
  | .write pairs =>
    tandem.afterBatch (Change.write ⟨tandem.remote.hub, tandem.log⟩ pairs)
      (tandem.direct.write pairs)
  | .delete keys =>
    tandem.afterBatch (Change.delete ⟨tandem.remote.hub, tandem.log⟩ keys)
      (tandem.direct.delete keys)
  | .settle => tandem.onRemote tandem.remote.settle
  | .hear handle most =>
    let (bytes, board) := tandem.remote.board.takeNotices handle most
    { tandem.onRemote (tandem.remote.withBoard board) with
      heard := Function.update tandem.heard handle (tandem.heard handle ++ bytes) }
  | .receive handle most =>
    match tandem.remote.board.session? handle with
    | none => tandem
    | some session =>
      let (notes, hub) := tandem.direct.hub.receive session.slot most
      { tandem.onDirect hub with
        received := Function.update tandem.received handle (tandem.received handle ++ notes) }

/-- The tandem after a run of steps. -/
def after (tandem : Tandem) (events : List TandemEvent) : Tandem := events.foldl step tandem

/-- What the local subscriber in the place of a client gets: what its reader has taken out and what
is still queued. -/
def handed (tandem : Tandem) (handle : Handle) (session : Record) : List Notice :=
  tandem.received handle ++
    ((tandem.direct.hub.boxes[session.slot]?).map Mailbox.queued).getD []

end Tandem

end WatchedStore.Session
