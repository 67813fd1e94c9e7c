import WatchedStore.Proofs.Session.Remote.Line
import WatchedStore.Proofs.Session.Remote.Matching

/-! # Steps of both sides

Clients come and go, batches are written, and readers read: each of these finds both sides with the
same in common that it leaves.
-/

namespace WatchedStore.Session

open WatchedStore.Wire

namespace Tandem

variable {tandem : Tandem} {owed : Handle → Bytes} {handle : Handle} {session : Record}

namespace Matches

/-- A client leaves both sides. -/
theorem finish (same : tandem.Matches owed)
    (present : tandem.remote.board.session? handle = some session)
    (serving : handle ∈ tandem.remote.pool.serving) :
    (((tandem.onRemote (tandem.remote.finished handle)).onDirect
      (tandem.direct.hub.unsubscribeAll session.id).2).moveTo handle .gone).Matches owed := by
  have board := Rendezvous.board_finished same.attended present serving
  have touches := Rendezvous.touches_finished same.attended present serving
  have absent := Rendezvous.notMem_roll_finished same.attended serving
  have enrolled : handle ∈ tandem.remote.roll := List.mem_append_left _ serving
  have seat : tandem.remote.seats handle = some session.id :=
    Rendezvous.seats_eq_some_iff.mpr ⟨enrolled, session, present, rfl⟩
  have sessions : (tandem.remote.finished handle).board.sessions =
      tandem.remote.board.sessions.modify handle Record.ended := by
    rw [board]
    rfl
  have count : (tandem.remote.finished handle).board.sessions.length =
      tandem.remote.board.sessions.length := by
    rw [sessions, List.length_modify]
  have hub : (tandem.remote.finished handle).hub =
      (tandem.remote.hub.unsubscribeAll session.id).2.closeMailbox handle := by
    rw [Rendezvous.hub, board]
    rfl
  constructor
  case attended =>
    refine same.attended.finish present serving ?_ fun other apart => ?_
    · rw [stage_moveTo, if_pos rfl]
    · rw [stage_moveTo, if_neg apart]
      rfl
  case connected =>
    intro other connected
    rw [stage_moveTo] at connected
    split at connected
    · cases connected
    · next apart => exact (touches.serving other apart).mpr (same.connected connected)
  case inStep =>
    have seats : (tandem.remote.finished handle).seats =
        Function.update tandem.remote.seats handle none := by
      funext slot
      by_cases eq : slot = handle
      · rw [eq, Function.update_self, Rendezvous.seats, if_neg absent]
      · rw [Function.update_of_ne eq, Rendezvous.seats, Rendezvous.seats, touches.others slot eq,
          if_congr (touches.roll eq) rfl rfl]
    have unheard : ∀ slot, (tandem.remote.finished handle).board.unheard slot =
        tandem.remote.board.unheard slot := fun slot =>
      congrArg (Option.getD · []) (Switchboard.map_session?_of_modify sessions (fun _ => rfl) slot)
    change InStep (tandem.remote.finished handle).seats _
      ⟨(tandem.remote.finished handle).hub, tandem.log⟩ _
    rw [seats, hub]
    refine (same.inStep.leave seat).mono fun slot id queued mirrored _ agrees => ?_
    refine ⟨agrees.1, ?_⟩
    change tandem.heard slot ++ (tandem.remote.finished handle).board.unheard slot ++ _ = _
    rw [unheard]
    exact agrees.2
  case boxes =>
    change (tandem.remote.finished handle).hub.boxes.length = _
    rw [hub]
    refine Eq.trans ?_ (same.boxes.trans count.symm)
    exact List.length_modify ..
  case mirrors => exact same.mirrors.trans count.symm
  case fresh =>
    intro other past
    have beyond : tandem.remote.board.sessions.length ≤ other := count ▸ past
    have apart := Switchboard.ne_of_beyond present beyond
    obtain ⟨dialing, silent⟩ := same.fresh beyond
    exact ⟨(stage_moveTo ..).trans ((if_neg apart).trans dialing), silent⟩

/-- A client whose session is served counts as connected. -/
theorem connected_of_serving (same : tandem.Matches owed) (dialing : tandem.stage handle = .dialing)
    (serving : handle ∈ tandem.remote.pool.serving) :
    (tandem.moveTo handle .connected).Matches owed := by
  have unchanged : (fun other => (tandem.moveTo handle .connected).stage other = .gone) =
      fun other => tandem.stage other = .gone := by
    funext other
    rw [stage_moveTo]
    split
    · next eq => simp [eq, dialing]
    · rfl
  refine { same with attended := unchanged.symm ▸ same.attended, connected := ?_, fresh := ?_ }
  · intro other connected
    rw [stage_moveTo] at connected
    split at connected
    · next eq => exact eq ▸ serving
    · exact same.connected connected
  · intro other beyond
    have apart : other ≠ handle := by
      rintro rfl
      exact absurd (List.mem_append_left _ serving) (same.attended.notMem_roll beyond)
    obtain ⟨still, silent⟩ := same.fresh beyond
    exact ⟨(stage_moveTo ..).trans ((if_neg apart).trans still), silent⟩

/-- A client joins both sides. -/
theorem join (same : tandem.Matches owed)
    (promised : owed tandem.remote.board.sessions.length = Rendezvous.welcome) :
    ((tandem.onRemote tandem.remote.joined).onDirect
      (tandem.direct.hub.openMailbox tandem.remote.queue).2).Matches owed := by
  obtain ⟨dialing, unread, untaken⟩ := same.fresh (Nat.le_refl _)
  have stays : tandem.stage tandem.remote.board.sessions.length ≠ .gone := by
    rw [dialing]
    decide
  have count : tandem.remote.joined.board.sessions.length =
      tandem.remote.board.sessions.length + 1 := List.length_append
  constructor
  case attended => exact same.attended.join same.boxes stays promised
  case connected => exact same.connected
  case inStep =>
    have seats : tandem.remote.joined.seats = Function.update tandem.remote.seats
        tandem.remote.hub.boxes.length (some tandem.remote.board.nextId) := by
      funext slot
      rw [Rendezvous.seats, Rendezvous.session?_joined, Rendezvous.roll_joined, same.boxes]
      by_cases eq : slot = tandem.remote.board.sessions.length
      · subst eq
        simp [Rendezvous.newcomer]
      · simp [eq, Rendezvous.seats]
    have absent : tandem.remote.seats tandem.remote.hub.boxes.length = none := by
      rw [Rendezvous.seats, same.boxes, if_neg (same.attended.notMem_roll (Nat.le_refl _))]
    change InStep tandem.remote.joined.seats _ _ _
    rw [seats]
    refine same.inStep.join tandem.remote.queue (same.mirrors.trans same.boxes.symm) absent ?_ ?_
    · rw [same.boxes]
      unfold agrees
      change (∀ note ∈ tandem.received _ ++ [], _) ∧
        tandem.heard _ ++ tandem.remote.joined.board.unheard _ ++ [] =
          (tandem.received _ ++ []).flatMap Notice.frame
      rw [untaken, unread, Switchboard.unheard, Rendezvous.session?_joined, if_pos rfl]
      refine ⟨?_, rfl⟩
      rintro note ⟨⟩
    · intro slot queued mirrored bound agrees
      refine ⟨agrees.1, ?_⟩
      change tandem.heard slot ++ tandem.remote.joined.board.unheard slot ++ _ = _
      rw [Switchboard.unheard, Rendezvous.session?_joined, if_neg]
      · exact agrees.2
      · exact Nat.ne_of_lt (same.boxes ▸ bound)
  case boxes => exact List.length_append.trans (congrArg (· + 1) same.boxes |>.trans count.symm)
  case mirrors => exact List.length_append.trans (congrArg (· + 1) same.mirrors |>.trans count.symm)
  case fresh =>
    intro other past
    have beyond : tandem.remote.joined.board.sessions.length ≤ other := past
    rw [count] at beyond
    exact same.fresh (Nat.le_of_succ_le beyond)

/-- An identity is used up on the remote side. -/
theorem skip (same : tandem.Matches owed) :
    (tandem.onRemote tandem.remote.skipped).Matches owed := by
  have keeps : tandem.remote.Keeps tandem.remote.skipped :=
    ⟨⟨rfl, rfl, fun _ member => member, fun _ => rfl⟩, fun _ => rfl⟩
  exact same.keeps keeps same.attended.skip same.inStep rfl rfl

theorem batch (same : tandem.Matches owed) {one two : Change}
    (inStep : InStep tandem.remote.seats tandem.agrees one two)
    (boxes : one.hub.boxes.length = tandem.remote.hub.boxes.length)
    (mirrors : two.hub.boxes.length = tandem.direct.hub.boxes.length) :
    (tandem.afterBatch one two).Matches owed := by
  have stays : tandem.remote.Stays (tandem.remote.withHub one.hub) :=
    ⟨rfl, rfl, fun _ member => member, fun _ => rfl⟩
  exact same.stays stays rfl (same.attended.withHub one.hub) inStep boxes mirrors
    fun _ => ⟨rfl, rfl⟩

/-- Both sides write pairs. -/
theorem write (same : tandem.Matches owed) (pairs : List (String × String)) :
    (tandem.step (.write pairs)).Matches owed :=
  same.batch (same.inStep.write tandem.agrees_grows pairs) (Hub.length_boxes_write _ pairs)
    (Hub.length_boxes_write _ pairs)

/-- Both sides delete keys. -/
theorem delete (same : tandem.Matches owed) (keys : List String) :
    (tandem.step (.delete keys)).Matches owed :=
  same.batch (same.inStep.delete tandem.agrees_grows keys) (Hub.length_boxes_delete _ keys)
    (Hub.length_boxes_delete _ keys)

/-- A client reads from its notification channel. -/
theorem hear (same : tandem.Matches owed) (handle : Handle) (most : Nat) :
    (tandem.step (.hear handle most)).Matches owed := by
  unfold step Switchboard.takeNotices
  dsimp only
  cases present : tandem.remote.board.session? handle with
  | none =>
    have still :
        Function.update tandem.heard handle (tandem.heard handle ++ []) = tandem.heard := by
      rw [List.append_nil, Function.update_eq_self]
    rw [Switchboard.edit_of_absent present]
    simp only [Option.map_none, Option.getD_none, still]
    exact same
  | some session =>
    have standing := same.attended.standing present
    let change : Record → Record := fun session =>
      { session with notices := session.notices.drop most }
    have stays : tandem.remote.Stays
        (tandem.remote.withBoard (tandem.remote.board.edit handle change)) :=
      @Rendezvous.Stays.of_edit tandem.remote handle _ change rfl fun _ => rfl
    refine same.stays stays rfl ?_ ?_ rfl rfl fun beyond => ?_
    · exact same.attended.edit present rfl rfl rfl ⟨rfl, rfl, rfl, rfl⟩
        (fun serving => (standing.serving serving).2) same.attended.promised standing.replies
        fun _ _ => rfl
    · refine same.inStep.mono fun slot id queued mirrored _ agrees => ⟨agrees.1, ?_⟩
      change Function.update tandem.heard handle _ slot ++
        (tandem.remote.board.edit handle change).unheard slot ++ _ = _
      rw [Switchboard.unheard_edit present, Function.update_apply]
      refine Eq.trans ?_ agrees.2
      split
      · next eq =>
        rw [eq, Switchboard.unheard_of_present present, List.append_assoc (tandem.heard handle)]
        exact congrArg (tandem.heard handle ++ · ++ _) (List.take_append_drop most session.notices)
      · rfl
    · exact ⟨Function.update_of_ne (Switchboard.ne_of_beyond present beyond) .., rfl⟩

/-- A local reader takes notifications out of its queue. -/
theorem receive (same : tandem.Matches owed) (handle : Handle) (most : Nat) :
    (tandem.step (.receive handle most)).Matches owed := by
  unfold step
  dsimp only
  cases present : tandem.remote.board.session? handle with
  | none => exact same
  | some session =>
    dsimp only
    rw [(same.attended.standing present).slot]
    have boxes : (tandem.direct.hub.receive handle most).2.boxes.length =
        tandem.direct.hub.boxes.length := by
      unfold Hub.receive Mailboxes.receive
      dsimp only
      split
      · rfl
      · exact List.length_set ..
    have stays : tandem.remote.Stays tandem.remote :=
      ⟨rfl, rfl, fun _ member => member, fun _ => rfl⟩
    refine same.stays stays rfl same.attended ?_ rfl boxes fun beyond => ?_
    · refine same.inStep.receive handle most ?_ ?_
      · rintro queued mirror there ⟨clean, agrees⟩
        have taken : (tandem.direct.hub.receive handle most).1 = mirror.queued.take most := by
          simp only [Hub.receive, Mailboxes.receive, there]
        have whole : Function.update tandem.received handle (tandem.received handle ++
            (tandem.direct.hub.receive handle most).1) handle ++ mirror.queued.drop most =
            tandem.received handle ++ mirror.queued := by
          rw [Function.update_self, taken, List.append_assoc, List.take_append_drop]
        unfold Tandem.agrees
        dsimp only
        rw [whole]
        exact ⟨clean, agrees⟩
      · rintro place queued mirrored apart agrees
        unfold Tandem.agrees
        dsimp only
        rw [Function.update_of_ne apart]
        exact agrees
    · exact ⟨rfl, Function.update_of_ne (Switchboard.ne_of_beyond present beyond) ..⟩

end Matches

end Tandem

end WatchedStore.Session
