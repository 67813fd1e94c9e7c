import Mathlib.Data.List.TakeWhile
import WatchedStore.Proofs.Wire.Frames
import WatchedStore.Session.Switchboard

/-! # Edits of one session

A switchboard changes session by session. An edit is seen at its session and nowhere else, and two
edits that make the same record of it are the same edit. Passing notifications on is an edit too:
the queue of the session is emptied, and its client is sent the frames.
-/

namespace WatchedStore.Session

open WatchedStore.Wire

namespace Switchboard

section Edits

variable {board : Switchboard} {handle : Handle} {session : Record}

theorem session?_edit (board : Switchboard) (handle : Handle) (change : Record → Record)
    (other : Handle) :
    (board.edit handle change).session? other =
      if other = handle then (board.session? handle).map change else board.session? other := by
  unfold edit session?
  dsimp only
  rw [List.getElem?_modify]
  by_cases same : handle = other
  · subst same
    simp
  · simp [same, Ne.symm same]

theorem session?_edit_self (present : board.session? handle = some session)
    (change : Record → Record) :
    (board.edit handle change).session? handle = some (change session) := by
  rw [session?_edit, if_pos rfl, present]
  rfl

theorem session?_edit_of_ne {other : Handle} (apart : other ≠ handle) (change : Record → Record) :
    (board.edit handle change).session? other = board.session? other := by
  rw [session?_edit, if_neg apart]

/-- An edit is what it makes of its session. -/
theorem edit_congr (present : board.session? handle = some session) {one two : Record → Record}
    (same : one session = two session) : board.edit handle one = board.edit handle two := by
  unfold edit
  congr 1
  refine List.ext_getElem? fun other => ?_
  rw [List.getElem?_modify, List.getElem?_modify]
  by_cases eq : handle = other
  · subst eq
    simp only [↓reduceIte]
    change Option.map one (board.session? handle) = Option.map two (board.session? handle)
    rw [present, Option.map_some, Option.map_some, same]
  · simp [eq]

theorem edit_eq_self (present : board.session? handle = some session) {change : Record → Record}
    (same : change session = session) : board.edit handle change = board := by
  rw [@edit_congr board handle session present change id same]
  unfold edit
  rw [List.modify_id]

theorem edit_of_absent (absent : board.session? handle = none) (change : Record → Record) :
    board.edit handle change = board := by
  unfold edit
  rw [List.modify_eq_self (List.getElem?_eq_none_iff.mp absent)]

theorem ne_of_beyond {other : Handle} (present : board.session? handle = some session)
    (beyond : board.sessions.length ≤ other) : other ≠ handle := by
  rintro rfl
  exact absurd (List.getElem?_eq_some_iff.mp present).1 (Nat.not_lt_of_le beyond)

theorem edit_edit (board : Switchboard) (handle : Handle) (one two : Record → Record) :
    (board.edit handle one).edit handle two = board.edit handle (two ∘ one) := by
  simp only [edit, List.modify_modify_eq]

/-- What an edit keeps of its session is kept of every session. -/
theorem map_session?_of_modify {later : Switchboard} {change : Record → Record}
    (sessions : later.sessions = board.sessions.modify handle change) {α : Type}
    {view : Record → α} (keeps : ∀ session, view (change session) = view session)
    (other : Handle) : (later.session? other).map view = (board.session? other).map view := by
  unfold session?
  rw [sessions, List.getElem?_modify]
  split
  · rw [Option.map_eq_map, Option.map_map]
    congr 1
    funext session
    exact keeps session
  · simp

end Edits

section Notices

variable {board : Switchboard} {handle : Handle} {session : Record}

/-- What a session has notified and its client has not read. -/
def unheard (board : Switchboard) (handle : Handle) : Bytes :=
  ((board.session? handle).map Record.notices).getD []

theorem unheard_of_present (present : board.session? handle = some session) :
    board.unheard handle = session.notices := by
  rw [unheard, present]
  rfl

theorem unheard_edit (present : board.session? handle = some session) (change : Record → Record)
    (other : Handle) :
    (board.edit handle change).unheard other =
      if other = handle then (change session).notices else board.unheard other := by
  by_cases same : other = handle
  · rw [if_pos same, same, unheard_of_present (session?_edit_self present change)]
  · rw [if_neg same, unheard, session?_edit_of_ne same change, unheard]

/-- The mailboxes after everything was taken out of one. -/
def emptied (board : Switchboard) (slot : Nat) : Switchboard :=
  { board with
    hub := { board.hub with
      boxes := board.hub.boxes.modify slot fun box => { box with queued := [] } } }

theorem receive_queued (board : Switchboard) (slot : Nat) :
    board.hub.receive slot
        ((board.hub.boxes[slot]?.map fun box => box.queued.length).getD 0) =
      ((board.hub.boxes[slot]?.map Mailbox.queued).getD [], (board.emptied slot).hub) := by
  unfold Hub.receive Mailboxes.receive emptied
  cases found : board.hub.boxes[slot]? with
  | none =>
    rw [List.modify_eq_self (List.getElem?_eq_none_iff.mp found)]
    rfl
  | some box =>
    rw [List.modify_eq_set_getElem?, found]
    simp

/-- A session passes its whole queue on: the frames of the notifications that have one, in
order. -/
theorem passNotices_of_notifying (present : board.session? handle = some session)
    (notifying : session.notifying = true) :
    ∃ bytes flag, board.passNotices handle =
        (board.emptied session.slot).edit handle (fun session =>
          { session with notices := session.notices ++ bytes, notifying := flag }) ∧
      ∀ box, board.hub.boxes[session.slot]? = some box → (∀ note ∈ box.queued, note.IsPlain) →
        bytes = box.queued.flatMap Notice.frame ∧ flag = true := by
  unfold passNotices
  simp only [present, notifying, ↓reduceIte, receive_queued]
  refine ⟨_, _, rfl, ?_⟩
  intro box found plain
  have frames : box.queued.map encodeNotice = box.queued.map fun note => .ok note.frame :=
    List.map_congr_left fun note member => encodeNotice_of_plain (plain note member)
  have whole : (box.queued.map encodeNotice).takeWhile (fun frame => frame.toOption.isSome) =
      box.queued.map encodeNotice := by
    rw [List.takeWhile_eq_self_iff, frames]
    intro encoded member
    obtain ⟨note, -, rfl⟩ := List.mem_map.mp member
    rfl
  simp only [found, Option.map_some, Option.getD_some, whole, decide_true, and_true]
  rw [List.flatMap_map]
  rfl

theorem passNotices_of_silent (present : board.session? handle = some session)
    (silent : session.notifying = false) : board.passNotices handle = board := by
  unfold passNotices
  simp only [present, silent, Bool.false_eq_true, ↓reduceIte]

theorem passNotices_of_absent (absent : board.session? handle = none) :
    board.passNotices handle = board := by
  unfold passNotices
  simp only [absent]

theorem map_id_passNotices (board : Switchboard) (handle other : Handle) :
    ((board.passNotices handle).session? other).map Record.id =
      (board.session? other).map Record.id := by
  cases found : board.session? handle with
  | none => rw [passNotices_of_absent found]
  | some session =>
    cases notifying : session.notifying with
    | false => rw [passNotices_of_silent found notifying]
    | true =>
      obtain ⟨bytes, flag, passed, -⟩ := passNotices_of_notifying found notifying
      rw [passed]
      refine map_session?_of_modify rfl ?_ other
      exact fun _ => rfl

/-- Nothing waits in the queue of a session that passes notifications on. -/
def HasPassed (board : Switchboard) (handle : Handle) : Prop :=
  ∀ session, board.session? handle = some session → session.notifying = true →
    ∀ box, board.hub.boxes[session.slot]? = some box → box.queued = []

theorem queued_emptied {slot other : Nat} {box : Mailbox}
    (present : (board.emptied slot).hub.boxes[other]? = some box) :
    box.queued = [] ∨ slot ≠ other ∧ board.hub.boxes[other]? = some box := by
  simp only [emptied, List.getElem?_modify] at present
  split at present
  · obtain ⟨before, -, rfl⟩ := Option.map_eq_some_iff.mp present
    exact .inl rfl
  · next apart => exact .inr ⟨apart, by simpa using present⟩

theorem hasPassed_passNotices (board : Switchboard) (handle : Handle) :
    (board.passNotices handle).HasPassed handle := by
  intro later there notifying box present
  cases found : board.session? handle with
  | none =>
    rw [passNotices_of_absent found, found] at there
    cases there
  | some session =>
    cases on : session.notifying with
    | false =>
      rw [passNotices_of_silent found on, found] at there
      cases there
      cases on.symm.trans notifying
    | true =>
      obtain ⟨bytes, flag, passed, -⟩ := passNotices_of_notifying found on
      rw [passed] at there present
      have own := @session?_edit_self (board.emptied session.slot) handle session found
      rw [own] at there
      cases there
      exact (queued_emptied present).resolve_right fun other => other.1 rfl

/-- Passing the notifications of a session on fills no queue. -/
theorem HasPassed.passNotices (passed : board.HasPassed handle) (other : Handle) :
    (board.passNotices other).HasPassed handle := by
  by_cases same : handle = other
  · exact same ▸ hasPassed_passNotices board handle
  · cases found : board.session? other with
    | none =>
      rw [passNotices_of_absent found]
      exact passed
    | some session =>
      cases on : session.notifying with
      | false =>
        rw [passNotices_of_silent found on]
        exact passed
      | true =>
        obtain ⟨bytes, flag, after, -⟩ := passNotices_of_notifying found on
        rw [after]
        intro own there notifying box present
        rw [session?_edit_of_ne same] at there
        rcases queued_emptied present with empty | ⟨-, before⟩
        · exact empty
        · exact passed own there notifying box before

/-- After passing on the notifications of all sessions none is left. -/
theorem hasPassed_passAllNotices (board : Switchboard) (handle : Handle) :
    board.passAllNotices.HasPassed handle := by
  have kept : ∀ handles : List Handle, ∀ board : Switchboard, board.HasPassed handle →
      (handles.foldl Switchboard.passNotices board).HasPassed handle := by
    intro handles
    induction handles with
    | nil => exact fun _ passed => passed
    | cons other rest ih => exact fun _ passed => ih _ (passed.passNotices other)
  unfold passAllNotices
  by_cases known : handle < board.sessions.length
  · obtain ⟨before, after, split⟩ := List.append_of_mem (List.mem_range.mpr known)
    rw [split, List.foldl_append, List.foldl_cons]
    exact kept after _ (hasPassed_passNotices _ handle)
  · refine kept _ board fun session there => ?_
    have bound := (List.getElem?_eq_some_iff.mp there).1
    exact absurd bound known

end Notices

end Switchboard

end WatchedStore.Session
