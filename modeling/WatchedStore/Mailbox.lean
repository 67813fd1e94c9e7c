import WatchedStore.Memory
import WatchedStore.Warning

/-! # Mailboxes and sinks

A subscriber is reached through a sink: an identity together with the place where notifications go,
which is either a numbered mailbox or an outlet that refuses everything. A mailbox holds a bounded
queue between the store and whoever reads the notifications. A full queue loses the newest
notification without an error, because a slow reader must not stall a write; a mailbox whose reader
is gone refuses, and that error is permanent.
-/

namespace WatchedStore

/-- The identity of a sink. One session has one sink, and the set of subscribers of a key holds an
identity at most once. -/
abbrev SinkId := Nat

/-- Where the notifications of a sink go. -/
inductive Outlet
  | mailbox (slot : Nat)
  | broken
deriving DecidableEq, Repr

/-- A handle on a subscriber. -/
structure Sink where
  id : SinkId
  outlet : Outlet
deriving DecidableEq, Repr

/-- A bounded queue of notifications; `isOpen` says whether it still has a reader. -/
structure Mailbox where
  capacity : Nat
  queued : List Notice
  isOpen : Bool
deriving DecidableEq, Repr

/-- All mailboxes, numbered in the order of their creation. -/
abbrev Mailboxes := List Mailbox

/-- What became of a notification handed to a sink. -/
inductive Delivery
  | queued
  | dropped
  | refused (error : Error)
deriving DecidableEq, Repr

namespace Mailbox

/-- The words of one place in a queue: a mark, and two texts of three words each. -/
def placeWords : Nat := 7

/-- Whether memory can hold a mailbox of the capacity. -/
def isPossible (capacity : Nat) : Bool := fitsBlock capacity placeWords

/-- An empty mailbox with a reader. -/
def ofCapacity (capacity : Nat) : Mailbox := ⟨capacity, [], true⟩

/-- Hands a notification to the mailbox of the sink `id`. -/
def offer (box : Mailbox) (id : SinkId) (note : Notice) : Delivery × Mailbox :=
  if !box.isOpen then (.refused (.channelClosed (.sinkClosed id)), box)
  else if box.queued.length < box.capacity then
    (.queued, { box with queued := box.queued ++ [note] })
  else (.dropped, box)

end Mailbox

namespace Mailboxes

/-- Hands a notification to a sink. -/
def deliver (boxes : Mailboxes) (sink : Sink) (note : Notice) : Delivery × Mailboxes :=
  match sink.outlet with
  | .broken => (.refused (.channelClosed .sinkBroken), boxes)
  | .mailbox slot =>
    match boxes[slot]? with
    | none => (.refused (.channelClosed (.sinkClosed sink.id)), boxes)
    | some box =>
      let (delivery, box) := box.offer sink.id note
      (delivery, boxes.set slot box)

/-- Takes the oldest notifications out of a mailbox, at most `most` of them. -/
def receive (boxes : Mailboxes) (slot most : Nat) : List Notice × Mailboxes :=
  match boxes[slot]? with
  | none => ([], boxes)
  | some box =>
    (box.queued.take most, boxes.set slot { box with queued := box.queued.drop most })

/-- Ends the reading of a mailbox; what is queued there is lost. -/
def close (boxes : Mailboxes) (slot : Nat) : Mailboxes :=
  boxes.modify slot fun box => { box with queued := [], isOpen := false }

/-- Delivering creates and removes no mailbox. -/
@[simp] theorem deliver_length (boxes : Mailboxes) (sink : Sink) (note : Notice) :
    (deliver boxes sink note).2.length = boxes.length := by
  unfold deliver
  split
  · rfl
  · split <;> simp

/-- Delivering to one mailbox leaves every other one as it was. -/
theorem deliver_getElem?_of_ne {boxes : Mailboxes} {sink : Sink} {note : Notice} {slot : Nat}
    (other : sink.outlet ≠ .mailbox slot) :
    (deliver boxes sink note).2[slot]? = boxes[slot]? := by
  unfold deliver
  split
  · rfl
  · next target eq =>
    have apart : target ≠ slot := fun same => other (eq.trans (same ▸ rfl))
    split
    · rfl
    · simp [apart]

end Mailboxes

end WatchedStore
