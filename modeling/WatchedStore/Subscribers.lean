import WatchedStore.Mailbox

/-! # The subscribers of a key

A set of sinks with at most one sink per identity, kept in ascending order of identity, and no
larger than a limit. A broadcast visits the members in that order. A member whose sink refuses is
given up there and then; one whose mailbox is full stays, because the loss is not its fault for
good.
-/

namespace WatchedStore

/-- The answer to a request to subscribe. -/
inductive SubscribeOutcome
  | subscribed
  | alreadySubscribed
  | keyNotFound
  | limitReached
deriving DecidableEq, Repr

/-- The name of an outcome. -/
def SubscribeOutcome.name : SubscribeOutcome → String
  | subscribed => "Subscribed"
  | alreadySubscribed => "AlreadySubscribed"
  | keyNotFound => "KeyNotFound"
  | limitReached => "LimitReached"

/-- The answer to a request to unsubscribe. -/
inductive UnsubscribeOutcome
  | removed
  | notSubscribed
  | keyNotFound
deriving DecidableEq, Repr

/-- The name of an outcome. -/
def UnsubscribeOutcome.name : UnsubscribeOutcome → String
  | removed => "Removed"
  | notSubscribed => "NotSubscribed"
  | keyNotFound => "KeyNotFound"

/-- What a broadcast leaves behind. -/
structure Broadcast where
  /-- The sinks that did not refuse. -/
  members : List Sink
  boxes : Mailboxes
  /-- How many sinks did not refuse. -/
  delivered : Nat
  warnings : List Warning
deriving DecidableEq, Repr

/-- Hands a notification to each sink in turn. -/
def broadcastTo (note : Notice) : List Sink → Mailboxes → Broadcast
  | [], boxes => ⟨[], boxes, 0, []⟩
  | sink :: rest, boxes =>
    let (delivery, boxes) := boxes.deliver sink note
    let later := broadcastTo note rest boxes
    match delivery with
    | .queued => ⟨sink :: later.members, later.boxes, later.delivered + 1, later.warnings⟩
    | .dropped =>
      ⟨sink :: later.members, later.boxes, later.delivered + 1,
        .queueFull sink.id note :: later.warnings⟩
    | .refused error =>
      ⟨later.members, later.boxes, later.delivered,
        .subscriberDropped sink.id note.key error :: later.warnings⟩

/-- A bounded set of sinks in ascending order of identity. -/
structure Subscribers where
  limit : Nat
  members : List Sink
deriving DecidableEq, Repr

namespace Subscribers

/-- No subscriber yet. -/
def empty (limit : Nat) : Subscribers := ⟨limit, []⟩

/-- The identities of the members, ascending. -/
def ids (subs : Subscribers) : List SinkId := subs.members.map Sink.id

/-- Whether an identity is a member. -/
def has (subs : Subscribers) (id : SinkId) : Bool := subs.members.any fun member => member.id = id

/-- The number of members. -/
def size (subs : Subscribers) : Nat := subs.members.length

/-- Puts a sink in its place among sinks in ascending order of identity. -/
def file (sink : Sink) : List Sink → List Sink
  | [] => [sink]
  | member :: rest =>
    if sink.id < member.id then sink :: member :: rest else member :: file sink rest

/-- Adds a sink unless its identity is a member already or the set is full. -/
def insert (subs : Subscribers) (sink : Sink) : SubscribeOutcome × Subscribers :=
  if subs.has sink.id then (.alreadySubscribed, subs)
  else if subs.limit ≤ subs.size then (.limitReached, subs)
  else (.subscribed, { subs with members := file sink subs.members })

/-- Removes an identity; true when it was a member. -/
def remove (subs : Subscribers) (id : SinkId) : Bool × Subscribers :=
  (subs.has id, { subs with members := subs.members.filter fun member => member.id ≠ id })

/-- Hands a notification to every member and gives up those that refuse. -/
def broadcast (subs : Subscribers) (note : Notice) (boxes : Mailboxes) :
    Subscribers × Broadcast :=
  let result := broadcastTo note subs.members boxes
  ({ subs with members := result.members }, result)

/-- Hands a last notification to every member and empties the set. -/
def dismiss (subs : Subscribers) (note : Notice) (boxes : Mailboxes) :
    Subscribers × Broadcast :=
  ({ subs with members := [] }, broadcastTo note subs.members boxes)

/-- The set as text, with its limit and the identities of its members. -/
def text (subs : Subscribers) : String :=
  let ids := ", ".intercalate (subs.ids.map toString)
  s!"SubscriberSet \x7b limit: {subs.limit}, members: [" ++ ids ++ "] \x7d"

end Subscribers

end WatchedStore
