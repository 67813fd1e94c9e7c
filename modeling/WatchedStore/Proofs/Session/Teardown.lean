import WatchedStore.Proofs.Session.Teardown.Steps
import WatchedStore.Proofs.Session.Teardown.Tally

/-! # Closing sessions in any order of the steps

A session is closed once and leaves nothing behind, however the steps of its worker fall among those
of the forced disconnects, and nobody else notices. A disconnect that comes from anywhere else is not
a step of these runs.
-/

namespace WatchedStore.Session

open WatchedStore.Wire

namespace Workshop

variable {ids : List SinkId} {shop : Workshop} {handle : Handle} {session : Record}

/-- A change that concerns one session: values, the other sessions and their subscriptions stay. -/
structure Spares (before later : Switchboard) (handle : Handle) (id : SinkId) : Prop where
  values : later.hub.store.snapshot = before.hub.store.snapshot
  sessions : ∀ other ≠ handle, later.session? other = before.session? other
  subscriptions : ∀ key, (later.hub.store.members key).filter (fun sink => sink.id ≠ id) =
    (before.hub.store.members key).filter fun sink => sink.id ≠ id

theorem spares_seize (board : Switchboard) (handle : Handle) (id : SinkId) :
    Spares board (board.seize handle) handle id where
  values := rfl
  sessions other apart := by
    unfold Switchboard.seize
    rw [Switchboard.session?_edit, if_neg apart]
  subscriptions _ := rfl

theorem spares_release (board : Switchboard) (handle : Handle) (id : SinkId) :
    Spares board (board.release id) handle id where
  values := Store.snapshot_unsubscribeAll board.hub.store id
  sessions _ _ := rfl
  subscriptions key := by
    change ((board.hub.store.unsubscribeAll id).2.members key).filter _ = _
    rw [Store.members_unsubscribeAll, List.filter_filter]
    simp only [Bool.and_self]

/-- Tearing a session down concerns that session. -/
theorem spares_work (shop : Workshop) (session : Record)
    (leaves : (shop.stage handle).leaves = true) (stopped : Bool) :
    Spares shop.board (shop.work handle session stopped).board handle session.id := by
  have same : Spares shop.board shop.board handle session.id := ⟨rfl, fun _ _ => rfl, fun _ => rfl⟩
  cases here : shop.stage handle with
  | leaving =>
    simp only [work, here]
    split
    · exact same
    · exact spares_seize shop.board handle session.id
  | clearing =>
    simp only [work, here]
    exact ⟨rfl, fun _ _ => rfl, fun _ => rfl⟩
  | releasing =>
    simp only [work, here]
    exact spares_release shop.board handle session.id
  | closing =>
    simp only [work, here]
    exact ⟨rfl, fun _ _ => rfl, fun _ => rfl⟩
  | waiting | taken | registered | admitted | serving | holding | finished =>
    rw [here] at leaves
    cases leaves

/-- A step of a forced disconnect concerns the first of the sessions that it has not done. -/
theorem spares_advance (shop : Workshop) (number : Nat) (sweep : Sweep) (rest : List Handle)
    (present : shop.board.session? handle = some session) :
    Spares shop.board (shop.advance number sweep handle rest).board handle session.id := by
  have same : Spares shop.board shop.board handle session.id := ⟨rfl, fun _ _ => rfl, fun _ => rfl⟩
  simp only [advance, present]
  split
  · split
    · exact same
    · exact spares_seize shop.board handle session.id
  · exact ⟨rfl, fun _ _ => rfl, fun _ => rfl⟩
  · exact spares_release shop.board handle session.id

theorem orderly_start {board : Switchboard} (sound : board.hub.store.Sound)
    (distinct : (board.sessions.map Record.id).Nodup)
    (connecting : ∀ session ∈ board.sessions, session.phase = .connecting)
    (unregistered : board.table = []) :
    (start board).Orderly (board.sessions.map Record.id) := by
  have unfolded : ∀ {handle id phase}, board.standing? handle = some (id, phase) →
      ∃ session, board.sessions[handle]? = some session ∧ session.id = id ∧
        session.phase = phase := by
    intro handle id phase there
    obtain ⟨session, present, same⟩ := Option.map_eq_some_iff.mp there
    obtain ⟨rfl, rfl⟩ := Prod.mk.inj same
    exact ⟨session, present, rfl, rfl⟩
  have opened : ∀ {handle id phase}, board.standing? handle = some (id, phase) →
      phase = .connecting := by
    intro handle id phase there
    obtain ⟨session, present, -, rfl⟩ := unfolded there
    exact connecting session (List.mem_of_getElem? present)
  refine ⟨sound, ?_, ?_, ?_, fun _ _ _ there _ => opened there, nofun, nofun, nofun, nofun, ?_⟩
  · intro first second id phase other one two
    obtain ⟨left, here, same, -⟩ := unfolded one
    obtain ⟨right, there, equal, -⟩ := unfolded two
    have size := (List.getElem?_eq_some_iff.mp here).1
    refine (List.getElem?_inj (by rw [List.length_map]; exact size) distinct).mp ?_
    rw [List.getElem?_map, List.getElem?_map, here, there, Option.map_some, Option.map_some, same,
      equal]
  · intro handle id phase there
    obtain ⟨session, present, rfl, -⟩ := unfolded there
    exact List.mem_map_of_mem (List.mem_of_getElem? present)
  · change ∀ entry ∈ board.table, _
    rw [unregistered]
    exact nofun
  · intro handle id phase there
    rw [opened there]
    rfl

/-- Order and tallies hold through a whole run. -/
theorem orderly_after (orderly : shop.Orderly ids) (tallied : shop.Tallied)
    {events : List WorkshopEvent} (foreign : ∀ event ∈ events, event.IsForeign ids) :
    (shop.after events).Orderly ids ∧ (shop.after events).Tallied := by
  induction events generalizing shop with
  | nil => exact ⟨orderly, tallied⟩
  | cons event rest ih =>
    have transition := orderly.transition_step (foreign event List.mem_cons_self)
    exact ih (orderly.transition transition) (tallied.transition orderly transition)
      fun later member => foreign later (List.mem_cons_of_mem _ member)

/-- A session that can be activated has been closed by nobody. -/
theorem Orderly.notMem_log_of_activated (orderly : shop.Orderly ids)
    (present : shop.board.session? handle = some session)
    (activated : (shop.board.activate handle).1 = .ok ()) (closer : Closer) :
    (handle, closer) ∉ shop.log := by
  have logged := orderly.logged handle _ _ (Switchboard.standing?_of_present present)
  have unclosed : session.phase ≠ .disconnected := by
    intro closed
    unfold Switchboard.activate at activated
    rw [present] at activated
    simp [closed] at activated
  rw [if_neg unclosed, List.countP_eq_zero] at logged
  exact fun member => logged (handle, closer) member (decide_eq_true rfl)

/-- A session whose worker has finished is closed and left behind nowhere. -/
theorem Orderly.gone_of_finished (orderly : shop.Orderly ids)
    (present : shop.board.session? handle = some session)
    (finished : shop.stage handle = .finished) :
    session.phase = .disconnected ∧ shop.board.table.lookup session.id = none ∧
      ∀ key, session.id ∉ (shop.board.hub.store.members key).map Sink.id := by
  have standing := Switchboard.standing?_of_present present
  refine ⟨orderly.ended handle _ _ standing (by rw [finished]; rfl), ?_, ?_⟩
  · refine List.lookup_eq_none_iff.mpr fun entry member => ?_
    rw [bne_iff_ne]
    intro same
    obtain ⟨-, phase, there, -⟩ := orderly.listed entry member
    have own := orderly.distinct _ _ _ _ _ standing (same ▸ there)
    exact orderly.absent (by rw [finished]; rfl) entry member own.symm
  · intro key subscribed
    obtain ⟨sink, member, same⟩ := List.mem_map.mp subscribed
    exact orderly.released handle _ _ standing (by rw [finished]; rfl) key sink member same

/-- When a forced disconnect is over, all that it began with is closed, and it answers for what it
has closed itself. -/
theorem Tallied.of_ended (tallied : shop.Tallied) {number : Nat} {sweep : Sweep}
    (found : shop.sweeps[number]? = some sweep) (ended : sweep.rest = []) :
    (∀ handle ∈ sweep.targets, shop.board.phase handle = .disconnected) ∧
      sweep.closed.Sublist sweep.targets ∧
      ∀ handle, handle ∈ sweep.closed ↔ (handle, .sweep number) ∈ shop.log := by
  obtain ⟨done, split, closed, shut⟩ := tallied.done sweep (List.mem_of_getElem? found)
  rw [ended, List.append_nil] at split
  have tally := tallied.tally number sweep found
  have none : current sweep = [] := by
    unfold current
    rw [ended, List.take_nil, ite_self]
  rw [none, List.append_nil] at tally
  refine ⟨split ▸ shut, split ▸ closed, fun handle => ?_⟩
  rw [← tally, closedBy, List.mem_map]
  constructor
  · rintro ⟨⟨other, closer⟩, member, rfl⟩
    obtain ⟨logged, own⟩ := List.mem_filter.mp member
    obtain rfl : closer = .sweep number := of_decide_eq_true own
    exact logged
  · exact fun logged =>
      ⟨(handle, .sweep number), List.mem_filter.mpr ⟨logged, decide_eq_true rfl⟩, rfl⟩

/-- In every run of workers and forced disconnects over sessions with distinct identities that nobody
else subscribes:

* every step leads each session to a state that may follow its state;
* a session is closed by exactly one caller if it is closed, and by none otherwise; activating it
  succeeds only if nobody has closed it; and once its worker has finished it is closed, in no table,
  and subscribed to no key;
* tearing a session down, and each step of a forced disconnect, concern that session only: the
  values, the other sessions and their subscriptions stay;
* a forced disconnect begins with the sessions that are registered; when it is over all of them are
  closed, and those that it answers for are the ones among them that it has closed itself. -/
theorem teardown_after_run {board : Switchboard} (sound : board.hub.store.Sound)
    (distinct : (board.sessions.map Record.id).Nodup)
    (connecting : ∀ session ∈ board.sessions, session.phase = .connecting)
    (unregistered : board.table = []) {events : List WorkshopEvent}
    (foreign : ∀ event ∈ events, event.IsForeign (board.sessions.map Record.id)) :
    let shop := (start board).after events
    (∀ event, event.IsForeign (board.sessions.map Record.id) →
      ∀ handle, (shop.board.phase handle).Leads ((shop.step event).board.phase handle)) ∧
    (∀ handle session, shop.board.session? handle = some session →
      (shop.log.countP (fun entry => entry.1 = handle) =
        if session.phase = .disconnected then 1 else 0) ∧
      ((shop.board.activate handle).1 = .ok () → ∀ closer, (handle, closer) ∉ shop.log) ∧
      (shop.stage handle = .finished → session.phase = .disconnected ∧
        shop.board.table.lookup session.id = none ∧
        ∀ key, session.id ∉ (shop.board.hub.store.members key).map Sink.id)) ∧
    (∀ handle session stopped, shop.board.session? handle = some session →
      (shop.stage handle).leaves = true →
        Spares shop.board (shop.step (.work handle stopped)).board handle session.id) ∧
    ((shop.step .drain).sweeps = shop.sweeps ++
        [⟨shop.board.table.map Prod.snd, shop.board.table.map Prod.snd, .next, []⟩] ∧
      (shop.step .drain).board = { shop.board with table := [] }) ∧
    (∀ number sweep, shop.sweeps[number]? = some sweep →
      (∀ handle rest session, sweep.rest = handle :: rest →
        shop.board.session? handle = some session → handle ∈ sweep.targets ∧
          Spares shop.board (shop.step (.advance number)).board handle session.id) ∧
      (sweep.rest = [] → (∀ handle ∈ sweep.targets, shop.board.phase handle = .disconnected) ∧
        sweep.closed.Sublist sweep.targets ∧
        ∀ handle, handle ∈ sweep.closed ↔ (handle, .sweep number) ∈ shop.log)) := by
  intro shop
  obtain ⟨orderly, tallied⟩ := orderly_after
    (orderly_start sound distinct connecting unregistered) (tallied_start board) foreign
  refine ⟨?_, ?_, ?_, ⟨rfl, rfl⟩, ?_⟩
  · exact fun event others handle => (orderly.transition_step others).leads handle
  · intro handle session present
    exact ⟨orderly.logged handle _ _ (Switchboard.standing?_of_present present),
      orderly.notMem_log_of_activated present, orderly.gone_of_finished present⟩
  · intro handle session stopped present leaves
    rw [step_work present]
    exact spares_work shop session leaves stopped
  · intro number sweep found
    refine ⟨?_, tallied.of_ended found⟩
    intro handle rest session remaining present
    refine ⟨?_, ?_⟩
    · obtain ⟨done, split, -⟩ := tallied.done sweep (List.mem_of_getElem? found)
      rw [split, remaining]
      exact List.mem_append_right _ List.mem_cons_self
    · rw [step_advance found remaining]
      exact spares_advance shop number sweep rest present

/-- A forced disconnect between the reading of a SUBSCRIBE and its execution: the session is subscribed
after the disconnect has released its subscriptions, and its worker releases them again. -/
theorem teardown_after_run_of_late_subscribe :
    let hub := (((Hub.empty 4).write [("a", "1")]).hub.openMailbox 3).2
    let frame : Bytes := 0x33 :: 0x61 :: List.replicate 39 0
    let board : Switchboard :=
      ⟨hub, [⟨1, .connecting, 0, false, [.chunk frame], [], []⟩], [], 2, false⟩
    let reading : List WorkshopEvent := List.replicate 5 (.work 0 false)
    let forced : List WorkshopEvent := [.drain, .advance 0, .advance 0, .advance 0]
    let late := (start board).after (reading ++ forced ++ [.work 0 false])
    let shop := (start board).after
      (reading ++ forced ++ [.work 0 false] ++ List.replicate 4 (.work 0 true))
    1 ∈ (late.board.hub.store.members "a").map Sink.id ∧ shop.stage 0 = .finished ∧
    shop.log.countP (fun entry => entry.1 = 0) = 1 ∧ shop.board.table.lookup 1 = none ∧
    ∀ key, 1 ∉ (shop.board.hub.store.members key).map Sink.id := by
  intro hub frame board reading forced late
  have sound : hub.store.Sound :=
    @Hub.sound_after (Hub.empty 4) (Store.sound_empty 4) [.write [("a", "1")], .openMailbox 3]
  have foreign : ∀ event ∈ reading ++ forced ++ [.work 0 false] ++ List.replicate 4 (.work 0 true),
      event.IsForeign (board.sessions.map Record.id) := by
    simp [reading, forced, WorkshopEvent.IsForeign]
  have run := @teardown_after_run board sound (by decide) (by decide) rfl _ foreign
  have present : ((start board).after
      (reading ++ forced ++ [.work 0 false] ++ List.replicate 4 (.work 0 true))).board.session? 0 =
        some ⟨1, .disconnected, 0, false, [.ended], [49, 48, 51, 48], []⟩ := by decide +kernel
  have finished : ((start board).after
      (reading ++ forced ++ [.work 0 false] ++ List.replicate 4 (.work 0 true))).stage 0 =
        .finished := by decide +kernel
  have subscribed : 1 ∈ (late.board.hub.store.members "a").map Sink.id := by decide +kernel
  -- Nothing below looks into the run, so its value is forgotten before the facts are put together.
  generalize (start board).after
    (reading ++ forced ++ [.work 0 false] ++ List.replicate 4 (.work 0 true)) = shop
    at run present finished ⊢
  obtain ⟨-, settled, -⟩ := run
  obtain ⟨logged, -, gone⟩ := settled 0 _ present
  exact ⟨subscribed, finished, logged, (gone finished).2⟩

end Workshop

end WatchedStore.Session
