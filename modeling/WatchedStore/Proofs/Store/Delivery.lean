import WatchedStore.Subscribers

/-! # What a broadcast does

Whether a sink refuses depends on its outlet and on the reader of its mailbox, never on what is
queued there, and no delivery changes it. A broadcast therefore gives up the same members in every
order, and a mailbox that belongs to one member is offered the notification exactly once. Which
notifications a full queue loses is left to the mailbox.
-/

namespace WatchedStore

namespace Mailbox

@[simp] theorem isOpen_offer (box : Mailbox) (id : SinkId) (note : Notice) :
    (box.offer id note).2.isOpen = box.isOpen := by
  unfold offer
  split
  · rfl
  · split <;> rfl

/-- An offer is refused exactly when nobody reads. -/
theorem offer_refused_iff {box : Mailbox} {id : SinkId} {note : Notice} :
    (∃ error, (box.offer id note).1 = .refused error) ↔ box.isOpen = false := by
  unfold offer
  cases reading : box.isOpen with
  | false => simp
  | true =>
    simp only [Bool.not_true, Bool.false_eq_true, ↓reduceIte]
    split <;> simp

end Mailbox

namespace Mailboxes

/-- Whether a sink takes notifications, be it to lose them in a full queue. -/
def accepts (boxes : Mailboxes) (sink : Sink) : Bool :=
  match sink.outlet with
  | .broken => false
  | .mailbox slot => (boxes[slot]?.map Mailbox.isOpen).getD false

/-- A delivery opens and closes nothing. -/
@[simp] theorem isOpen_deliver (boxes : Mailboxes) (sink : Sink) (note : Notice) (slot : Nat) :
    (deliver boxes sink note).2[slot]?.map Mailbox.isOpen = boxes[slot]?.map Mailbox.isOpen := by
  by_cases target : sink.outlet = .mailbox slot
  · unfold deliver
    rw [target]
    dsimp only
    cases present : boxes[slot]? with
    | none => simp only [present]
    | some box =>
      have bound : slot < boxes.length := (List.getElem?_eq_some_iff.mp present).1
      simp only [List.getElem?_set_self bound, Option.map_some, Mailbox.isOpen_offer]
  · rw [deliver_getElem?_of_ne target]

@[simp] theorem accepts_deliver (boxes : Mailboxes) (sink other : Sink) (note : Notice) :
    accepts (deliver boxes sink note).2 other = accepts boxes other := by
  unfold accepts
  cases other.outlet with
  | broken => rfl
  | mailbox slot => simp only [isOpen_deliver]

theorem deliver_refused_iff {boxes : Mailboxes} {sink : Sink} {note : Notice} :
    (∃ error, (deliver boxes sink note).1 = .refused error) ↔ accepts boxes sink = false := by
  unfold deliver accepts
  cases sink.outlet with
  | broken => simp
  | mailbox slot =>
    dsimp only
    cases boxes[slot]? with
    | none => simp
    | some box => simpa using Mailbox.offer_refused_iff

/-- Reading a mailbox leaves every other one as it was. -/
theorem getElem?_receive_of_ne {boxes : Mailboxes} {slot other : Nat} (apart : slot ≠ other)
    (most : Nat) : (receive boxes slot most).2[other]? = boxes[other]? := by
  unfold receive
  split
  · rfl
  · exact List.getElem?_set_ne apart

theorem getElem?_close_of_ne {boxes : Mailboxes} {slot other : Nat} (apart : slot ≠ other) :
    (close boxes slot)[other]? = boxes[other]? := by
  simp only [close, List.getElem?_modify, if_neg apart]
  exact id_map _

/-- Reading opens and closes nothing. -/
@[simp] theorem isOpen_receive (boxes : Mailboxes) (slot most other : Nat) :
    (receive boxes slot most).2[other]?.map Mailbox.isOpen = boxes[other]?.map Mailbox.isOpen := by
  by_cases same : slot = other
  · subst same
    unfold receive
    cases present : boxes[slot]? with
    | none => simp only [present]
    | some box =>
      obtain ⟨bound, -⟩ := List.getElem?_eq_some_iff.mp present
      simp only [List.getElem?_set_self bound, Option.map_some]
  · rw [getElem?_receive_of_ne same]

end Mailboxes

/-- A broadcast keeps the members whose sinks accept, in their order. -/
theorem members_broadcastTo (note : Notice) (sinks : List Sink) (boxes : Mailboxes) :
    (broadcastTo note sinks boxes).members = sinks.filter boxes.accepts := by
  induction sinks generalizing boxes with
  | nil => rfl
  | cons sink rest ih =>
    have later : rest.filter (Mailboxes.accepts (boxes.deliver sink note).2) =
        rest.filter boxes.accepts := by
      congr 1
      funext other
      exact Mailboxes.accepts_deliver boxes sink other note
    have refusal : (∃ error, (boxes.deliver sink note).1 = .refused error) ↔
        boxes.accepts sink = false := Mailboxes.deliver_refused_iff
    unfold broadcastTo
    dsimp only
    cases outcome : (boxes.deliver sink note).1 with
    | refused error =>
      have closed : boxes.accepts sink = false := refusal.mp ⟨error, outcome⟩
      simp only [ih, later, List.filter_cons, closed, Bool.false_eq_true, ↓reduceIte]
    | queued | dropped =>
      have taken : boxes.accepts sink = true := by
        rw [← Bool.not_eq_false, ← refusal, outcome]
        simp
      simp only [ih, later, List.filter_cons, taken, ↓reduceIte]

/-- The mailboxes after a broadcast are those after delivering to each sink in turn. -/
theorem boxes_broadcastTo_cons (note : Notice) (sink : Sink) (rest : List Sink)
    (boxes : Mailboxes) :
    (broadcastTo note (sink :: rest) boxes).boxes =
      (broadcastTo note rest (boxes.deliver sink note).2).boxes := by
  rw [broadcastTo]
  rcases boxes.deliver sink note with ⟨_ | _ | _, _⟩ <;> rfl

/-- A broadcast opens and closes nothing. -/
@[simp] theorem isOpen_broadcastTo (note : Notice) (sinks : List Sink) (boxes : Mailboxes)
    (slot : Nat) :
    (broadcastTo note sinks boxes).boxes[slot]?.map Mailbox.isOpen =
      boxes[slot]?.map Mailbox.isOpen := by
  induction sinks generalizing boxes with
  | nil => rfl
  | cons sink rest ih => rw [boxes_broadcastTo_cons, ih, Mailboxes.isOpen_deliver]

/-- A mailbox to which no member leads is left as it was. -/
theorem getElem?_broadcastTo_of_forall_ne {note : Notice} {sinks : List Sink} {boxes : Mailboxes}
    {slot : Nat} (others : ∀ sink ∈ sinks, sink.outlet ≠ .mailbox slot) :
    (broadcastTo note sinks boxes).boxes[slot]? = boxes[slot]? := by
  induction sinks generalizing boxes with
  | nil => rfl
  | cons sink rest ih =>
    rw [boxes_broadcastTo_cons, ih fun other member => others other (List.mem_cons_of_mem _ member)]
    exact Mailboxes.deliver_getElem?_of_ne (others sink List.mem_cons_self)

/-- The mailbox of one member is offered the notification exactly once. -/
theorem getElem?_broadcastTo_of_mem {note : Notice} {sinks : List Sink} {boxes : Mailboxes}
    {id : SinkId} {slot : Nat} {box : Mailbox} (once : sinks.Nodup)
    (member : ⟨id, .mailbox slot⟩ ∈ sinks)
    (sole : ∀ sink ∈ sinks, sink.outlet = .mailbox slot → sink = ⟨id, .mailbox slot⟩)
    (present : boxes[slot]? = some box) :
    (broadcastTo note sinks boxes).boxes[slot]? = some (box.offer id note).2 := by
  induction sinks generalizing boxes with
  | nil => exact absurd member List.not_mem_nil
  | cons sink rest ih =>
    obtain ⟨fresh, restOnce⟩ := List.nodup_cons.mp once
    have restSole : ∀ other ∈ rest, other.outlet = .mailbox slot → other = ⟨id, .mailbox slot⟩ :=
      fun other inRest => sole other (List.mem_cons_of_mem _ inRest)
    rw [boxes_broadcastTo_cons]
    rcases List.mem_cons.mp member with rfl | inRest
    · have others : ∀ other ∈ rest, other.outlet ≠ .mailbox slot :=
        fun other inRest leads => fresh (restSole other inRest leads ▸ inRest)
      have bound : slot < boxes.length := (List.getElem?_eq_some_iff.mp present).1
      rw [getElem?_broadcastTo_of_forall_ne others]
      simp only [Mailboxes.deliver, present, List.getElem?_set_self bound]
    · have apart : sink.outlet ≠ .mailbox slot := by
        intro leads
        exact fresh (sole sink List.mem_cons_self leads ▸ inRest)
      refine ih restOnce inRest restSole ?_
      rw [Mailboxes.deliver_getElem?_of_ne apart]
      exact present

end WatchedStore
