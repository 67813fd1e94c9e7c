import WatchedStore.Proofs.Session.Dispatch.Steps

/-! # Where the sessions are

Between any two steps every received session is in one place, the buffer and the workers have no more
sessions than they may, and sessions are taken as they were submitted. None of this looks at how far
anybody is with a session.
-/

namespace WatchedStore.Session

namespace Dispatch

variable {dispatch : Dispatch} {handle : Handle}

/-- The books are in order. -/
structure Kept (dispatch : Dispatch) : Prop where
  once : (dispatch.those .received).Nodup
  places : dispatch.places.Perm (dispatch.those .received)
  inOrder : dispatch.those .submitted = dispatch.those .taken ++ dispatch.buffer
  within : dispatch.buffer.length ≤ dispatch.capacity
  manned : dispatch.crew.length ≤ dispatch.workers
  joined : dispatch.door = .closed → dispatch.buffer = [] ∧ dispatch.crew = []

theorem kept_start (board : Switchboard) (workers capacity : Nat) :
    (start board workers capacity).Kept where
  once := List.nodup_nil
  places := .nil
  inOrder := rfl
  within := Nat.zero_le _
  manned := Nat.zero_le _
  joined := nofun

theorem Kept.nodup_places (kept : dispatch.Kept) : dispatch.places.Nodup :=
  kept.places.nodup_iff.mpr kept.once

theorem Kept.received_of_mem (kept : dispatch.Kept) (placed : handle ∈ dispatch.places) :
    handle ∈ dispatch.those .received := kept.places.mem_iff.mp placed

/-- No session is in two places. -/
theorem Kept.count_places_le (kept : dispatch.Kept) (handle : Handle) :
    dispatch.door.held.count handle + dispatch.door.torn.count handle +
      dispatch.buffer.count handle + dispatch.crew.count handle +
      (dispatch.those .finished).count handle ≤ 1 := by
  have single := List.nodup_iff_count_le_one.mp kept.nodup_places handle
  simpa only [Dispatch.places, List.count_append] using single

/-- A session that somebody has in hand to serve it or to tear it down is nowhere else. -/
theorem Kept.nowhere_else (kept : dispatch.Kept)
    (mine : handle ∈ dispatch.door.torn ∨ handle ∈ dispatch.crew) :
    handle ∈ dispatch.those .received ∧ handle ∉ dispatch.door.held ∧ handle ∉ dispatch.buffer ∧
      (handle ∈ dispatch.door.torn → handle ∉ dispatch.crew) := by
  have single := kept.count_places_le handle
  refine ⟨kept.received_of_mem ?_, ?_⟩
  · simp only [Dispatch.places, List.mem_append]
    tauto
  · simp only [← List.count_pos_iff] at mine ⊢
    omega

/-- Steps that move no session. -/
theorem Kept.go (kept : dispatch.Kept) (shop : Workshop) {door : Door} (asked : Bool)
    (held : door.held = dispatch.door.held) (torn : door.torn = dispatch.door.torn)
    (joined : door = .closed → dispatch.buffer = [] ∧ dispatch.crew = []) :
    Kept { dispatch with shop := shop, door := door, asked := asked } where
  once := kept.once
  places := by
    unfold Dispatch.places
    dsimp only
    rw [held, torn]
    exact kept.places
  inOrder := kept.inOrder
  within := kept.within
  manned := kept.manned
  joined := joined

theorem Kept.on (kept : dispatch.Kept) (event : WorkshopEvent) : (dispatch.on event).Kept :=
  kept.go _ dispatch.asked rfl rfl kept.joined

theorem Kept.note_acknowledged (kept : dispatch.Kept) (handle : Handle) :
    (dispatch.note handle .acknowledged).Kept where
  once := by simpa [those_note] using kept.once
  places := by simpa [Dispatch.places, those, note, Deed.entries_concat] using kept.places
  inOrder := by simpa [those, note, Deed.entries_concat] using kept.inOrder
  within := kept.within
  manned := kept.manned
  joined := kept.joined

/-- The accept loop, with empty hands, receives a session that it has not received before. -/
theorem Kept.receive (kept : dispatch.Kept) (new : handle ∉ dispatch.those .received) {door : Door}
    (free : dispatch.door.held = [] ∧ dispatch.door.torn = [])
    (hands : door.held = [handle] ∧ door.torn = []) (unclosed : door ≠ .closed) :
    ((dispatch.note handle .received).go door).Kept where
  once := by
    have once := kept.once.concat new
    simpa [those, note, Dispatch.go, Deed.entries_concat] using once
  places := by
    have before := kept.places
    simp only [Dispatch.places, free, List.nil_append] at before
    simp only [Dispatch.places, those, note, Dispatch.go, Deed.entries_concat, hands, reduceCtorEq,
      ↓reduceIte, List.append_nil]
    exact (before.cons handle).trans (List.perm_append_singleton handle _).symm
  inOrder := by simpa [those, note, Dispatch.go, Deed.entries_concat] using kept.inOrder
  within := kept.within
  manned := kept.manned
  joined closed := absurd closed unclosed

/-- The accept loop puts the session in its hands in the buffer. -/
theorem Kept.submit (kept : dispatch.Kept) (door : dispatch.door = .holding handle)
    (room : dispatch.buffer.length < dispatch.capacity) :
    Kept { (dispatch.note handle .submitted).go .accepting with
      buffer := dispatch.buffer ++ [handle] } where
  once := by simpa [those, note, Dispatch.go, Deed.entries_concat] using kept.once
  places := by
    have before := kept.places
    simp only [Dispatch.places, door, Door.held, Door.torn, List.append_nil] at before
    refine List.Perm.trans ?_ (by simpa [those, note, Dispatch.go, Deed.entries_concat] using before)
    simp only [Dispatch.places, those, note, Dispatch.go, Deed.entries_concat, Door.held, Door.torn,
      reduceCtorEq, ↓reduceIte, List.append_nil, List.nil_append]
    rw [List.append_assoc, List.append_assoc, List.singleton_append]
    exact List.perm_middle
  inOrder := by
    have before := kept.inOrder
    simp only [those, note, Dispatch.go, Deed.entries_concat, reduceCtorEq, ↓reduceIte, List.append_nil]
      at before ⊢
    rw [before, List.append_assoc]
  within := by simpa [note, Dispatch.go, Nat.succ_le_iff] using room
  manned := kept.manned
  joined := nofun

/-- A worker takes the first session in the buffer. -/
theorem Kept.take (kept : dispatch.Kept) {rest : List Handle}
    (waiting : dispatch.buffer = handle :: rest) (free : dispatch.crew.length < dispatch.workers) :
    Kept { dispatch.note handle .taken with
      buffer := rest, crew := dispatch.crew ++ [handle] } where
  once := by simpa [those, note, Deed.entries_concat] using kept.once
  places := by
    refine List.Perm.trans ?_ (by simpa [those, note, Deed.entries_concat] using kept.places)
    refine List.perm_iff_count.mpr fun other => ?_
    simp only [Dispatch.places, those, note, Deed.entries_concat, waiting, reduceCtorEq, ↓reduceIte,
      List.append_nil, List.count_append, List.count_cons, List.count_nil]
    omega
  inOrder := by
    have before := kept.inOrder
    simp only [those, note, Deed.entries_concat, waiting, reduceCtorEq, ↓reduceIte, List.append_nil]
      at before ⊢
    rw [before, List.append_assoc, List.singleton_append]
  within := by
    have within := kept.within
    rw [waiting, List.length_cons] at within
    exact Nat.le_of_succ_le within
  manned := by simpa [note, Nat.succ_le_iff] using free
  joined closed := by
    have none := (kept.joined closed).1
    rw [waiting] at none
    cases none

/-- A session leaves its worker, or the hands of the accept loop, torn down. -/
theorem Kept.finish (kept : dispatch.Kept) (shop : Workshop) {door : Door} {crew : List Handle}
    (one : ∀ other, door.held.count other + door.torn.count other + crew.count other +
      (if handle = other then 1 else 0) = dispatch.door.held.count other +
        dispatch.door.torn.count other + dispatch.crew.count other)
    (fewer : crew.length ≤ dispatch.crew.length)
    (joined : door = .closed → dispatch.buffer = [] ∧ crew = []) :
    Kept { dispatch.note handle .finished with shop := shop, door := door, crew := crew } where
  once := by simpa [those, note, Deed.entries_concat] using kept.once
  places := by
    refine List.Perm.trans ?_ (by simpa [those, note, Deed.entries_concat] using kept.places)
    refine List.perm_iff_count.mpr fun other => ?_
    have moved := one other
    simp only [Dispatch.places, those, note, Deed.entries_concat, ↓reduceIte, List.count_append,
      List.count_cons, List.count_nil, beq_iff_eq]
    omega
  inOrder := by simpa [those, note, Deed.entries_concat] using kept.inOrder
  within := kept.within
  manned := Nat.le_trans fewer kept.manned
  joined := joined

theorem Kept.work (kept : dispatch.Kept) (mine : handle ∈ dispatch.crew) (stopped : Bool) :
    (dispatch.work handle stopped).Kept := by
  have same := kept.on (.work handle stopped)
  unfold Dispatch.work
  dsimp only
  split
  · exact same.note_acknowledged handle
  split
  · refine same.finish _ (fun other => ?_) (List.length_filter_le _ _) (fun closed => ?_)
    · have present := List.count_pos_iff.mpr mine
      have single := kept.count_places_le handle
      change _ = dispatch.door.held.count other + dispatch.door.torn.count other +
        dispatch.crew.count other
      by_cases own : handle = other
      · subst own
        have gone : (dispatch.crew.filter (· ≠ handle)).count handle = 0 :=
          List.count_eq_zero.mpr (by simp)
        simp only [↓reduceIte, Dispatch.on, note, gone]
        omega
      · have stays : (dispatch.crew.filter (· ≠ handle)).count other = dispatch.crew.count other :=
          List.count_filter (decide_eq_true (Ne.symm own))
        simp only [if_neg own, Dispatch.on, note, stays, Nat.add_zero]
    · obtain ⟨-, none⟩ := kept.joined closed
      rw [none] at mine
      cases mine
  · exact same

theorem Kept.tear (kept : dispatch.Kept) {door : Door}
    (hands : dispatch.door.held = [] ∧ dispatch.door.torn = [handle])
    (free : door.held = [] ∧ door.torn = []) (unclosed : door ≠ .closed) :
    (dispatch.tear handle door).Kept := by
  have same := kept.on (.work handle true)
  unfold Dispatch.tear
  dsimp only
  split
  · refine same.finish _ (fun other => ?_) Nat.le.refl (fun closed => absurd closed unclosed)
    simp only [Dispatch.on, note, hands, free, List.count_nil, List.count_cons, beq_iff_eq]
    omega
  · exact same

theorem Kept.dismiss (kept : dispatch.Kept) {door : Door}
    (hands : dispatch.door.held = [handle] ∧ dispatch.door.torn = [])
    (torn : door.held = [] ∧ door.torn = [handle]) (unclosed : door ≠ .closed) :
    (dispatch.dismiss handle door).Kept where
  once := kept.once
  places := by
    have before := kept.places
    simp only [Dispatch.places, hands, List.append_nil] at before
    simp only [Dispatch.places, Dispatch.dismiss, torn, List.nil_append]
    exact before
  inOrder := kept.inOrder
  within := kept.within
  manned := kept.manned
  joined closed := absurd closed unclosed

/-- Every step keeps the books in order. -/
theorem Kept.of_change (kept : dispatch.Kept) {made : DispatchEvent} {next : Dispatch}
    (change : dispatch.Change made next) : next.Kept := by
  cases change with
  | goes asked held torn joined =>
    exact kept.go _ asked held torn fun closed => (joined closed).elim kept.joined id
  | does event foreign stages held torn joined =>
    exact kept.go _ dispatch.asked held torn fun closed => kept.joined (joined closed)
  | receives new present door =>
    exact kept.receive new (by rw [door]; exact ⟨rfl, rfl⟩) ⟨rfl, rfl⟩ nofun
  | turnsAway new present door =>
    -- As if it were handed back and then refused.
    have returned := @Kept.receive _ _ kept new (.returned _)
      (by rw [door]; exact ⟨rfl, rfl⟩) ⟨rfl, rfl⟩ nofun
    exact returned.dismiss ⟨rfl, rfl⟩ ⟨rfl, rfl⟩ nofun
  | submits door room => exact kept.submit door room
  | dismisses door => exact kept.dismiss (by rw [door]; exact ⟨rfl, rfl⟩) ⟨rfl, rfl⟩ nofun
  | tears hands free unclosed => exact kept.tear hands free unclosed
  | takes waiting free => exact kept.take waiting free
  | works mine stopped => exact kept.work mine stopped
  | leaves mine serving => exact kept.on _

end Dispatch

end WatchedStore.Session
