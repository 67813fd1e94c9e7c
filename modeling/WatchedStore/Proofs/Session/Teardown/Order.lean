import WatchedStore.Proofs.Session.Board
import WatchedStore.Proofs.Session.Workshop

/-! # Order among workers and forced disconnects

What holds of the sessions, the table and the subscribers between any two steps: only a session whose
worker has entered it can be in the table; a forced disconnect works on sessions that are no longer
there; and once a worker has released the subscriptions of its session, nobody subscribes it again,
because only that worker does. A step is one of a few kinds of change, and each kind keeps the
order.
-/

namespace WatchedStore.Session

open WatchedStore.Wire

namespace Phase

/-- The states that may follow a state. -/
inductive Leads : Phase → Phase → Prop
  | stays (phase : Phase) : Leads phase phase
  | activates : Leads connecting active
  | disconnects (phase : Phase) : Leads phase disconnected

theorem Leads.of_disconnected {phase : Phase} (leads : Leads .disconnected phase) :
    phase = .disconnected := by
  cases leads <;> rfl

end Phase

namespace Stage

/-- The worker has entered the session in the table. -/
def entered : Stage → Bool
  | waiting => false
  | taken => false
  | _ => true

/-- The worker has entered the session and not taken it out again. -/
def listed : Stage → Bool
  | registered => true
  | admitted => true
  | serving => true
  | holding _ => true
  | leaving => true
  | clearing => true
  | _ => false

/-- Somebody has closed the session before the worker went on. -/
def ended : Stage → Bool
  | clearing => true
  | releasing => true
  | closing => true
  | finished => true
  | _ => false

/-- The worker has released the subscriptions. -/
def released : Stage → Bool
  | closing => true
  | finished => true
  | _ => false

/-- The worker is tearing the session down. -/
def leaves : Stage → Bool
  | leaving => true
  | clearing => true
  | releasing => true
  | closing => true
  | _ => false

theorem entered_of_listed {stage : Stage} (listed : stage.listed = true) :
    stage.entered = true := by
  cases stage <;> first | rfl | cases listed

end Stage

namespace Switchboard

/-- The identity and the state of a session. -/
def standing? (board : Switchboard) (handle : Handle) : Option (SinkId × Phase) :=
  (board.session? handle).map fun session => (session.id, session.phase)

variable {board : Switchboard} {handle : Handle} {session : Record}

theorem standing?_of_present (present : board.session? handle = some session) :
    board.standing? handle = some (session.id, session.phase) := by
  rw [standing?, present]
  rfl

theorem phase_eq (board : Switchboard) (handle : Handle) :
    board.phase handle = ((board.standing? handle).map Prod.snd).getD .disconnected := by
  unfold phase standing?
  cases board.session? handle <;> rfl

theorem phase_of_standing {id : SinkId} {phase : Phase}
    (there : board.standing? handle = some (id, phase)) : board.phase handle = phase := by
  rw [phase_eq, there]
  rfl

/-- An edit that keeps identity and state keeps them for every session. -/
theorem standing?_edit_of_keeps {change : Record → Record}
    (keeps : ∀ session, (change session).id = session.id ∧ (change session).phase = session.phase)
    (board : Switchboard) (handle other : Handle) :
    (board.edit handle change).standing? other = board.standing? other := by
  rw [standing?, session?_edit]
  split
  · next same =>
    rw [same, Option.map_map, standing?]
    congr 1
    funext session
    exact Prod.ext (keeps session).1 (keeps session).2
  · rfl

theorem standing?_respond (board : Switchboard) (handle : Handle) (response : Response)
    (other : Handle) : (board.respond handle response).standing? other = board.standing? other := by
  refine standing?_edit_of_keeps ?_ board handle other
  exact fun _ => ⟨rfl, rfl⟩

end Switchboard

namespace Workshop

/-- What holds between any two steps on sessions with the given identities. -/
structure Orderly (ids : List SinkId) (shop : Workshop) : Prop where
  sound : shop.board.hub.store.Sound
  distinct : ∀ first second id phase other, shop.board.standing? first = some (id, phase) →
    shop.board.standing? second = some (id, other) → first = second
  known : ∀ handle id phase, shop.board.standing? handle = some (id, phase) → id ∈ ids
  /-- An entry of the table is that of a session between being entered and being taken out, and the
  session is open unless its own worker has just closed it. -/
  listed : ∀ entry ∈ shop.board.table, (shop.stage entry.2).listed = true ∧
    ∃ phase, shop.board.standing? entry.2 = some (entry.1, phase) ∧
      (phase = .disconnected → shop.stage entry.2 = .clearing)
  fresh : ∀ handle id phase, shop.board.standing? handle = some (id, phase) →
    (shop.stage handle).entered = false → phase = .connecting
  ended : ∀ handle id phase, shop.board.standing? handle = some (id, phase) →
    (shop.stage handle).ended = true → phase = .disconnected
  released : ∀ handle id phase, shop.board.standing? handle = some (id, phase) →
    (shop.stage handle).released = true →
      ∀ key, ∀ sink ∈ shop.board.hub.store.members key, sink.id ≠ id
  /-- A forced disconnect works on sessions that are no longer in the table. -/
  drained : ∀ sweep ∈ shop.sweeps, ∀ handle ∈ sweep.rest, (shop.stage handle).entered = true ∧
    ∀ entry ∈ shop.board.table, entry.2 ≠ handle
  /-- A forced disconnect goes on with a session only after it has been closed. -/
  caught : ∀ sweep ∈ shop.sweeps, sweep.stage ≠ .next → ∃ handle rest id,
    sweep.rest = handle :: rest ∧ shop.board.standing? handle = some (id, .disconnected)
  /-- A session is closed once. -/
  logged : ∀ handle id phase, shop.board.standing? handle = some (id, phase) →
    shop.log.countP (fun entry => entry.1 = handle) = if phase = .disconnected then 1 else 0

/-- A change of the switchboard that touches the state of no session, enters none in the table and
subscribes none whose subscriptions its worker has released. -/
structure Calm (shop : Workshop) (board : Switchboard) : Prop where
  standing : ∀ handle, board.standing? handle = shop.board.standing? handle
  listed : ∀ entry ∈ board.table, entry ∈ shop.board.table
  sound : shop.board.hub.store.Sound → board.hub.store.Sound
  subscribed : shop.board.hub.store.Sound → ∀ key, ∀ sink ∈ board.hub.store.members key,
    sink ∈ shop.board.hub.store.members key ∨
      ∀ handle phase, shop.board.standing? handle = some (sink.id, phase) →
        (shop.stage handle).released = false

/-- A stage that the worker of a session may come to without touching anything. -/
structure Allows (shop : Workshop) (handle : Handle) (stage : Stage) : Prop where
  listed : ∀ entry ∈ shop.board.table, entry.2 = handle → stage.listed = true ∧
    ∀ id phase, shop.board.standing? handle = some (id, phase) → phase = .disconnected →
      stage = .clearing
  entered : (shop.stage handle).entered = true → stage.entered = true
  fresh : ∀ id phase, shop.board.standing? handle = some (id, phase) → stage.entered = false →
    phase = .connecting
  ended : ∀ id phase, shop.board.standing? handle = some (id, phase) → stage.ended = true →
    phase = .disconnected
  released : ∀ id phase, shop.board.standing? handle = some (id, phase) → stage.released = true →
    ∀ key, ∀ sink ∈ shop.board.hub.store.members key, sink.id ≠ id

/-- What a step can do. -/
inductive Transition (shop : Workshop) : Workshop → Prop
  | calm (board : Switchboard) (calm : shop.Calm board) : Transition shop (shop.on board)
  | moved (board : Switchboard) (calm : shop.Calm board) (handle : Handle) (stage : Stage)
      (allows : (shop.on board).Allows handle stage) :
      Transition shop ((shop.on board).move handle stage)
  | registered (handle : Handle) (session : Record)
      (present : shop.board.session? handle = some session) (taken : shop.stage handle = .taken) :
      Transition shop ((shop.on (shop.board.register handle)).move handle .registered)
  | activated (handle : Handle) (session : Record)
      (present : shop.board.session? handle = some session)
      (connecting : session.phase = .connecting) :
      Transition shop ((shop.on (shop.board.activate handle).2).move handle .serving)
  | seized (handle : Handle) (session : Record)
      (present : shop.board.session? handle = some session)
      (unclosed : session.phase ≠ .disconnected) :
      Transition shop ((shop.seize handle .worker).move handle .clearing)
  | drained : Transition shop (shop.step .drain)
  | passed (number : Nat) (sweep : Sweep) (handle : Handle) (rest : List Handle)
      (found : shop.sweeps[number]? = some sweep) (remaining : sweep.rest = handle :: rest)
      (between : sweep.stage = .next)
      (closed : ∀ id phase, shop.board.standing? handle = some (id, phase) →
        phase = .disconnected) :
      Transition shop (shop.setSweep number { sweep with rest := rest })
  | caught (number : Nat) (sweep : Sweep) (handle : Handle) (rest : List Handle)
      (found : shop.sweeps[number]? = some sweep) (remaining : sweep.rest = handle :: rest)
      (between : sweep.stage = .next) (session : Record)
      (present : shop.board.session? handle = some session)
      (unclosed : session.phase ≠ .disconnected) :
      Transition shop ((shop.seize handle (.sweep number)).setSweep number
        { sweep with stage := .clearing })
  | withdrew (number : Nat) (sweep : Sweep) (handle : Handle) (rest : List Handle)
      (found : shop.sweeps[number]? = some sweep) (remaining : sweep.rest = handle :: rest)
      (clearing : sweep.stage = .clearing) (session : Record)
      (present : shop.board.session? handle = some session) :
      Transition shop ((shop.on (shop.board.withdraw session.id)).setSweep number
        { sweep with stage := .releasing })
  | released (number : Nat) (sweep : Sweep) (handle : Handle) (rest : List Handle)
      (found : shop.sweeps[number]? = some sweep) (remaining : sweep.rest = handle :: rest)
      (releasing : sweep.stage = .releasing) (session : Record)
      (present : shop.board.session? handle = some session) :
      Transition shop ((shop.on (shop.board.release session.id)).setSweep number
        { sweep with rest := rest, stage := .next, closed := sweep.closed ++ [handle] })

variable {ids : List SinkId} {shop : Workshop} {handle : Handle} {session : Record}

theorem calm_refl (shop : Workshop) : shop.Calm shop.board where
  standing _ := rfl
  listed _ member := member
  sound := id
  subscribed _ _ _ member := .inl member

theorem Calm.edit {board : Switchboard} (calm : shop.Calm board) {change : Record → Record}
    (keeps : ∀ session, (change session).id = session.id ∧ (change session).phase = session.phase)
    (handle : Handle) : shop.Calm (board.edit handle change) where
  standing other :=
    (Switchboard.standing?_edit_of_keeps keeps board handle other).trans (calm.standing other)
  listed := calm.listed
  sound := calm.sound
  subscribed := calm.subscribed

theorem Calm.respond {board : Switchboard} (calm : shop.Calm board) (handle : Handle)
    (response : Response) : shop.Calm (board.respond handle response) := by
  refine calm.edit ?_ handle
  exact fun _ => ⟨rfl, rfl⟩

theorem calm_withdraw (shop : Workshop) (id : SinkId) : shop.Calm (shop.board.withdraw id) where
  standing _ := rfl
  listed _ member := List.mem_of_mem_filter member
  sound sound := sound
  subscribed _ _ _ member := .inl member

theorem calm_release (shop : Workshop) (id : SinkId) : shop.Calm (shop.board.release id) where
  standing _ := rfl
  listed _ member := member
  sound sound := sound.unsubscribeAll id
  subscribed _ key sink member := by
    change sink ∈ (shop.board.hub.store.unsubscribeAll id).2.members key at member
    rw [Store.members_unsubscribeAll] at member
    exact .inl (List.mem_of_mem_filter member)

theorem calm_abandon (shop : Workshop) (slot : Nat) : shop.Calm (shop.board.abandon slot) where
  standing _ := rfl
  listed _ member := member
  sound := id
  subscribed _ _ _ member := .inl member

/-- A call of the store that subscribes no session whose subscriptions are released. -/
theorem calm_call (shop : Workshop) {call : Call}
    (subscribes : ∀ key sink, call = .subscribe key sink → ∀ handle phase,
      shop.board.standing? handle = some (sink.id, phase) →
        (shop.stage handle).released = false) :
    shop.Calm { shop.board with hub := (shop.board.hub.call call).2 } where
  standing _ := rfl
  listed _ member := member
  sound sound := Hub.sound_call sound call
  subscribed sound key sink member :=
    (Hub.mem_members_of_call sound member).imp_right fun handed => subscribes key sink handed

/-- A session subscribes itself, and its worker is not at the end then. -/
theorem Orderly.calm_apply (orderly : shop.Orderly ids)
    (present : shop.board.session? handle = some session) {request : Request}
    (holding : shop.stage handle = .holding request) :
    shop.Calm (shop.board.apply handle request).2 := by
  unfold Switchboard.apply
  rw [present]
  cases request with
  | disconnect => exact (calm_refl shop).respond handle _
  | subscribe key =>
    refine Calm.respond (@calm_call shop (.subscribe key session.sink) ?_) handle _
    intro other sink same first phase standing
    obtain ⟨-, rfl⟩ := Call.subscribe.inj same
    obtain rfl := orderly.distinct _ _ _ _ _ standing (Switchboard.standing?_of_present present)
    rw [holding]
    rfl
  | unsubscribe key =>
    exact Calm.respond (@calm_call shop (.unsubscribe key session.id) nofun) handle _

theorem Orderly.on (orderly : shop.Orderly ids) {board : Switchboard} (calm : shop.Calm board) :
    (shop.on board).Orderly ids where
  sound := calm.sound orderly.sound
  distinct first second id phase other := by
    change board.standing? first = _ → board.standing? second = _ → _
    rw [calm.standing, calm.standing]
    exact orderly.distinct first second id phase other
  known handle id phase := by
    change board.standing? handle = _ → _
    rw [calm.standing]
    exact orderly.known handle id phase
  listed entry member := by
    obtain ⟨listed, phase, standing, unclosed⟩ := orderly.listed entry (calm.listed entry member)
    exact ⟨listed, phase, (calm.standing entry.2).trans standing, unclosed⟩
  fresh handle id phase := by
    change board.standing? handle = _ → _
    rw [calm.standing]
    exact orderly.fresh handle id phase
  ended handle id phase := by
    change board.standing? handle = _ → _
    rw [calm.standing]
    exact orderly.ended handle id phase
  released handle id phase := by
    change board.standing? handle = _ → _
    rw [calm.standing]
    intro standing released key sink member same
    rcases calm.subscribed orderly.sound key sink member with old | fresh
    · exact orderly.released handle id phase standing released key sink old same
    · have unreleased := fresh handle phase (same ▸ standing)
      exact absurd (released.symm.trans unreleased) (by decide)
  drained sweep member handle waiting := by
    obtain ⟨entered, absent⟩ := orderly.drained sweep member handle waiting
    exact ⟨entered, fun entry listed => absent entry (calm.listed entry listed)⟩
  caught sweep member busy := by
    obtain ⟨handle, rest, id, remaining, standing⟩ := orderly.caught sweep member busy
    exact ⟨handle, rest, id, remaining, (calm.standing handle).trans standing⟩
  logged handle id phase := by
    change board.standing? handle = _ → _
    rw [calm.standing]
    exact orderly.logged handle id phase

theorem Orderly.move (orderly : shop.Orderly ids) {stage : Stage}
    (allows : shop.Allows handle stage) : (shop.move handle stage).Orderly ids where
  sound := orderly.sound
  distinct := orderly.distinct
  known := orderly.known
  listed entry member := by
    obtain ⟨listed, phase, standing, unclosed⟩ := orderly.listed entry member
    by_cases same : entry.2 = handle
    · obtain ⟨still, closed⟩ := allows.listed entry member same
      simp only [Workshop.move, same, Function.update_self]
      exact ⟨still, phase, same ▸ standing, closed entry.1 phase (same ▸ standing)⟩
    · simp only [Workshop.move, Function.update_of_ne same]
      exact ⟨listed, phase, standing, unclosed⟩
  fresh other id phase standing := by
    by_cases same : other = handle
    · subst same
      rw [stage_move]
      exact allows.fresh id phase standing
    · simp only [Workshop.move, Function.update_of_ne same]
      exact orderly.fresh other id phase standing
  ended other id phase standing := by
    by_cases same : other = handle
    · subst same
      rw [stage_move]
      exact allows.ended id phase standing
    · simp only [Workshop.move, Function.update_of_ne same]
      exact orderly.ended other id phase standing
  released other id phase standing := by
    by_cases same : other = handle
    · subst same
      rw [stage_move]
      exact allows.released id phase standing
    · simp only [Workshop.move, Function.update_of_ne same]
      exact orderly.released other id phase standing
  drained sweep member other waiting := by
    obtain ⟨entered, absent⟩ := orderly.drained sweep member other waiting
    refine ⟨?_, absent⟩
    by_cases same : other = handle
    · subst same
      rw [stage_move]
      exact allows.entered entered
    · simp only [Workshop.move, Function.update_of_ne same]
      exact entered
  caught := orderly.caught
  logged := orderly.logged

/-- A step that touches one session: its worker has entered it before or does so now, and leaves it
in the given state and stage. -/
structure Acts (shop next : Workshop) (handle : Handle) (id : SinkId) (phase : Phase)
    (stage : Stage) : Prop where
  hub : next.board.hub = shop.board.hub
  standings : ∀ other, next.board.standing? other =
    if other = handle then some (id, phase) else shop.board.standing? other
  stages : ∀ other, next.stage other = if other = handle then stage else shop.stage other
  table : ∀ entry ∈ next.board.table,
    entry ∈ shop.board.table ∨ entry = (id, handle) ∧ (shop.stage handle).entered = false
  sweeps : next.sweeps = shop.sweeps
  log : ∀ other ≠ handle, next.log.countP (fun entry => entry.1 = other) =
    shop.log.countP fun entry => entry.1 = other
  entered : stage.entered = true
  unreleased : stage.released = false
  ended : stage.ended = true → phase = .disconnected
  listed : ∀ entry ∈ next.board.table, entry.2 = handle →
    stage.listed = true ∧ (phase = .disconnected → stage = .clearing)
  logged : next.log.countP (fun entry => entry.1 = handle) = if phase = .disconnected then 1 else 0

theorem Orderly.act (orderly : shop.Orderly ids) {next : Workshop} {id : SinkId}
    {before phase : Phase} {stage : Stage}
    (standing : shop.board.standing? handle = some (id, before))
    (unclosed : before ≠ .disconnected) (acts : shop.Acts next handle id phase stage) :
    next.Orderly ids where
  sound := acts.hub ▸ orderly.sound
  distinct first second own p q one two := by
    have earlier : ∀ other r, next.board.standing? other = some (own, r) →
        ∃ r, shop.board.standing? other = some (own, r) := by
      intro other r there
      rw [acts.standings] at there
      split at there
      · next same =>
        cases there
        exact ⟨before, same ▸ standing⟩
      · exact ⟨r, there⟩
    obtain ⟨p, one⟩ := earlier first p one
    obtain ⟨q, two⟩ := earlier second q two
    exact orderly.distinct first second own p q one two
  known other own p there := by
    rw [acts.standings] at there
    split at there
    · cases there
      exact orderly.known handle id before standing
    · exact orderly.known other own p there
  listed entry member := by
    rw [acts.stages, acts.standings]
    by_cases same : entry.2 = handle
    · obtain ⟨listed, closed⟩ := acts.listed entry member same
      have own : entry.1 = id := by
        rcases acts.table entry member with old | ⟨rfl, -⟩
        · obtain ⟨-, p, there, -⟩ := orderly.listed entry old
          rw [same, standing] at there
          cases there
          rfl
        · rfl
      rw [if_pos same, if_pos same, own]
      exact ⟨listed, phase, rfl, closed⟩
    · have old := (acts.table entry member).resolve_right fun new => same (new.1 ▸ rfl)
      rw [if_neg same, if_neg same]
      exact orderly.listed entry old
  fresh other own p there unentered := by
    rw [acts.stages] at unentered
    rw [acts.standings] at there
    split at unentered
    · exact absurd (acts.entered.symm.trans unentered) (by decide)
    · next apart =>
      rw [if_neg apart] at there
      exact orderly.fresh other own p there unentered
  ended other own p there ended := by
    rw [acts.stages] at ended
    rw [acts.standings] at there
    split at ended
    · next same =>
      rw [if_pos same] at there
      cases there
      exact acts.ended ended
    · next apart =>
      rw [if_neg apart] at there
      exact orderly.ended other own p there ended
  released other own p there released := by
    rw [acts.stages] at released
    rw [acts.standings] at there
    rw [acts.hub]
    split at released
    · exact absurd (released.symm.trans acts.unreleased) (by decide)
    · next apart =>
      rw [if_neg apart] at there
      exact orderly.released other own p there released
  drained sweep member other waiting := by
    rw [acts.sweeps] at member
    obtain ⟨entered, absent⟩ := orderly.drained sweep member other waiting
    rw [acts.stages]
    constructor
    · split
      · exact acts.entered
      · exact entered
    · intro entry listed same
      rcases acts.table entry listed with old | ⟨rfl, unentered⟩
      · exact absent entry old same
      · obtain rfl : handle = other := same
        exact absurd (entered.symm.trans unentered) (by decide)
  caught sweep member busy := by
    rw [acts.sweeps] at member
    obtain ⟨other, rest, own, remaining, there⟩ := orderly.caught sweep member busy
    have apart : other ≠ handle := by
      rintro rfl
      rw [standing] at there
      cases there
      exact unclosed rfl
    exact ⟨other, rest, own, remaining, by rw [acts.standings, if_neg apart, there]⟩
  logged other own p there := by
    rw [acts.standings] at there
    split at there
    · next same =>
      cases there
      rw [same]
      exact acts.logged
    · next apart =>
      rw [acts.log _ apart]
      exact orderly.logged other own p there

theorem Orderly.register (orderly : shop.Orderly ids)
    (present : shop.board.session? handle = some session) (taken : shop.stage handle = .taken) :
    ((shop.on (shop.board.register handle)).move handle .registered).Orderly ids := by
  have standing := Switchboard.standing?_of_present present
  have unentered : (shop.stage handle).entered = false := by
    rw [taken]
    rfl
  have unclosed : session.phase ≠ .disconnected := by
    rw [orderly.fresh handle _ _ standing unentered]
    decide
  have entry : shop.board.register handle = { shop.board with
      table := (shop.board.table.filter fun entry => entry.1 ≠ session.id) ++
        [(session.id, handle)] } := by
    unfold Switchboard.register
    rw [present]
    rfl
  have acts : shop.Acts ((shop.on (shop.board.register handle)).move handle .registered) handle
      session.id session.phase .registered := by
    rw [entry]
    refine ⟨rfl, ?_, Function.update_apply shop.stage handle .registered, ?_, rfl, fun _ _ => rfl,
      rfl, rfl, nofun, fun _ _ _ => ⟨rfl, fun closed => absurd closed unclosed⟩,
      orderly.logged handle _ _ standing⟩
    · intro other
      split
      · next same => exact same ▸ standing
      · rfl
    · intro entry member
      rcases List.mem_append.mp member with old | new
      · exact .inl (List.mem_of_mem_filter old)
      · exact .inr ⟨List.mem_singleton.mp new, unentered⟩
  exact orderly.act standing unclosed acts

theorem activate_of_connecting (present : shop.board.session? handle = some session)
    (connecting : session.phase = .connecting) :
    shop.board.activate handle =
      (.ok (), (shop.board.edit handle fun session =>
        { session with phase := .active, notifying := true }).respond handle ⟨.connect, .ok⟩) := by
  unfold Switchboard.activate
  rw [present]
  exact if_pos connecting

theorem standing?_activate (present : shop.board.session? handle = some session)
    (connecting : session.phase = .connecting) (other : Handle) :
    (shop.board.activate handle).2.standing? other =
      if other = handle then some (session.id, .active) else shop.board.standing? other := by
  rw [activate_of_connecting present connecting]
  dsimp only
  rw [Switchboard.standing?_respond, Switchboard.standing?, Switchboard.session?_edit, present]
  split <;> rfl

theorem standing?_seize (present : shop.board.session? handle = some session) (other : Handle) :
    (shop.board.seize handle).standing? other =
      if other = handle then some (session.id, .disconnected)
      else shop.board.standing? other := by
  unfold Switchboard.seize
  rw [Switchboard.standing?, Switchboard.session?_edit, present]
  split <;> rfl

theorem Orderly.activate (orderly : shop.Orderly ids)
    (present : shop.board.session? handle = some session)
    (connecting : session.phase = .connecting) :
    ((shop.on (shop.board.activate handle).2).move handle .serving).Orderly ids := by
  have standing := Switchboard.standing?_of_present present
  have unclosed : session.phase ≠ .disconnected := by
    rw [connecting]
    decide
  have earlier := orderly.logged handle _ _ standing
  rw [if_neg unclosed] at earlier
  have acts : shop.Acts ((shop.on (shop.board.activate handle).2).move handle .serving) handle
      session.id .active .serving := by
    refine ⟨?_, standing?_activate present connecting,
      Function.update_apply shop.stage handle .serving, ?_, rfl, fun _ _ => rfl, rfl, rfl, nofun,
      fun _ _ _ => ⟨rfl, nofun⟩, earlier⟩
    · change (shop.board.activate handle).2.hub = shop.board.hub
      rw [activate_of_connecting present connecting]
      rfl
    · change ∀ entry ∈ (shop.board.activate handle).2.table, _
      rw [activate_of_connecting present connecting]
      exact fun _ member => .inl member
  exact orderly.act standing unclosed acts

/-- Whoever closes a session, its worker or a forced disconnect: the table has no entry of it then,
or its worker goes to take the entry out. -/
theorem Orderly.seize (orderly : shop.Orderly ids)
    (present : shop.board.session? handle = some session)
    (unclosed : session.phase ≠ .disconnected) (closer : Closer) {stage : Stage}
    (entered : stage.entered = true) (unreleased : stage.released = false)
    (leaves : ∀ entry ∈ shop.board.table, entry.2 = handle → stage = .clearing) :
    ((shop.seize handle closer).move handle stage).Orderly ids := by
  have standing := Switchboard.standing?_of_present present
  have earlier := orderly.logged handle _ _ standing
  rw [if_neg unclosed] at earlier
  have acts : shop.Acts ((shop.seize handle closer).move handle stage) handle
      session.id .disconnected stage := by
    refine ⟨rfl, standing?_seize present, Function.update_apply shop.stage handle stage,
      fun _ member => .inl member, rfl, ?_, entered, unreleased, fun _ => rfl, ?_, ?_⟩
    · intro other apart
      change (shop.log ++ [(handle, closer)]).countP _ = _
      simp [List.countP_append, Ne.symm apart]
    · intro entry member same
      obtain rfl := leaves entry member same
      exact ⟨rfl, fun _ => rfl⟩
    · change (shop.log ++ [(handle, closer)]).countP _ = _
      rw [List.countP_append, earlier]
      simp
  exact orderly.act standing unclosed acts

theorem Orderly.setSweep (orderly : shop.Orderly ids) {number : Nat} {sweep next : Sweep}
    (found : shop.sweeps[number]? = some sweep) (fewer : ∀ handle ∈ next.rest, handle ∈ sweep.rest)
    (caught : next.stage ≠ .next → ∃ handle rest id, next.rest = handle :: rest ∧
      shop.board.standing? handle = some (id, .disconnected)) :
    (shop.setSweep number next).Orderly ids := by
  have old : ∀ other ∈ shop.sweeps.set number next, other ∈ shop.sweeps ∨ other = next :=
    fun other member => List.mem_or_eq_of_mem_set member
  refine { orderly with drained := ?_, caught := ?_ }
  · intro other member
    rcases old other member with kept | rfl
    · exact orderly.drained other kept
    · exact fun handle waiting =>
        orderly.drained sweep (List.mem_of_getElem? found) handle (fewer handle waiting)
  · intro other member
    rcases old other member with kept | rfl
    · exact orderly.caught other kept
    · exact caught

theorem Orderly.drain (orderly : shop.Orderly ids) : (shop.step .drain).Orderly ids := by
  refine { orderly with listed := nofun, drained := ?_, caught := ?_ }
  · intro sweep member handle waiting
    refine ⟨?_, nofun⟩
    rcases List.mem_append.mp member with kept | begun
    · exact (orderly.drained sweep kept handle waiting).1
    · rw [List.mem_singleton.mp begun] at waiting
      obtain ⟨entry, listed, rfl⟩ := List.mem_map.mp waiting
      exact Stage.entered_of_listed (orderly.listed entry listed).1
  · intro sweep member busy
    rcases List.mem_append.mp member with kept | begun
    · exact orderly.caught sweep kept busy
    · rw [List.mem_singleton.mp begun] at busy
      exact absurd rfl busy

/-- What a step can do keeps order. -/
theorem Orderly.transition (orderly : shop.Orderly ids) {next : Workshop}
    (transition : shop.Transition next) : next.Orderly ids := by
  cases transition with
  | calm board calm => exact orderly.on calm
  | moved board calm handle stage allows => exact (orderly.on calm).move allows
  | registered handle session present taken => exact orderly.register present taken
  | activated handle session present connecting => exact orderly.activate present connecting
  | seized handle session present unclosed =>
    exact orderly.seize present unclosed .worker rfl rfl fun _ _ _ => rfl
  | drained => exact orderly.drain
  | passed number sweep handle rest found remaining between closed =>
    refine orderly.setSweep found ?_ fun busy => absurd between busy
    exact fun other member => remaining ▸ List.mem_cons_of_mem _ member
  | caught number sweep handle rest found remaining between session present unclosed =>
    have standing := Switchboard.standing?_of_present present
    obtain ⟨entered, absent⟩ := orderly.drained sweep (List.mem_of_getElem? found) handle
      (remaining ▸ List.mem_cons_self)
    have unreleased : (shop.stage handle).released = false := by
      refine Bool.eq_false_iff.mpr fun released => unclosed ?_
      refine orderly.ended handle _ _ standing ?_
      cases stage : shop.stage handle <;> first | rfl | (rw [stage] at released; cases released)
    have seized := orderly.seize present unclosed (.sweep number) entered unreleased
      fun entry member same => absurd same (absent entry member)
    have still : (shop.seize handle (.sweep number)).move handle (shop.stage handle) =
        shop.seize handle (.sweep number) := by
      unfold Workshop.move
      congr 1
      exact Function.update_eq_self handle shop.stage
    rw [still] at seized
    refine seized.setSweep found (fun _ member => member) fun _ =>
      ⟨handle, rest, session.id, remaining, ?_⟩
    exact (standing?_seize present handle).trans (if_pos rfl)
  | withdrew number sweep handle rest found remaining clearing session present =>
    have ordered := orderly.on (calm_withdraw shop session.id)
    refine ordered.setSweep found (fun _ member => member) fun _ => ?_
    exact orderly.caught sweep (List.mem_of_getElem? found) (by rw [clearing]; decide)
  | released number sweep handle rest found remaining releasing session present =>
    have ordered := orderly.on (calm_release shop session.id)
    refine ordered.setSweep found ?_ fun busy => absurd rfl busy
    exact fun other member => remaining ▸ List.mem_cons_of_mem _ member

end Workshop

end WatchedStore.Session
