import WatchedStore.Proofs.Session.Teardown

/-! # The way of a worker through one session

From every stage a worker has few ways on, and most of them depend on whether the pool is told to stop.
What follows for the dispatching of sessions is read off these ways: a session that no worker takes
while the pool runs never comes to be answered, and a worker that sees that it is to stop is done with
its session after a few steps.
-/

namespace WatchedStore.Session

open WatchedStore.Wire

namespace Stage

/-- The stages that the next step of a worker may lead to, in a pool that runs or is told to stop. -/
inductive Leads (stopping : Bool) : Stage → Stage → Prop
  | takes (running : stopping = false) : Leads stopping waiting taken
  | refuses (told : stopping = true) : Leads stopping waiting leaving
  | enters : Leads stopping taken registered
  | admits (running : stopping = false) : Leads stopping registered admitted
  | drops (told : stopping = true) : Leads stopping registered leaving
  | answers : Leads stopping admitted serving
  | fails : Leads stopping admitted leaving
  | waits : Leads stopping serving serving
  | reads (request : Request) : Leads stopping serving (holding request)
  | ends : Leads stopping serving leaving
  | goesOn (request : Request) : Leads stopping (holding request) serving
  | quits (request : Request) : Leads stopping (holding request) leaving
  | closes : Leads stopping leaving clearing
  | finds : Leads stopping leaving releasing
  | withdraws : Leads stopping clearing releasing
  | releases : Leads stopping releasing closing
  | finishes : Leads stopping closing finished
  | rests : Leads stopping finished finished

/-- CONNECT may have been answered. -/
def answered : Stage → Bool
  | waiting => false
  | taken => false
  | registered => false
  | admitted => false
  | _ => true

/-- Where a session can be that is not taken while the pool runs. -/
def aside : Stage → Bool
  | waiting => true
  | leaving => true
  | clearing => true
  | releasing => true
  | closing => true
  | finished => true
  | _ => false

/-- How many steps it takes at most from here to the end, if the worker sees that it is to stop. -/
def left : Stage → Nat
  | waiting => 9
  | taken => 8
  | registered => 7
  | admitted => 6
  | holding _ => 6
  | serving => 5
  | leaving => 4
  | clearing => 3
  | releasing => 2
  | closing => 1
  | finished => 0

variable {stopping : Bool} {before after : Stage}

theorem aside_of_leaves (leaves : before.leaves = true) : before.aside = true := by
  cases before <;> first | rfl | cases leaves

theorem left_le (stage : Stage) : stage.left ≤ 9 := by
  cases stage <;> simp only [left, Nat.reduceLeDiff]

theorem eq_finished_of_left (done : before.left = 0) : before = .finished := by
  cases before <;> first | rfl | cases done

theorem Leads.answered (leads : Leads stopping before after) (answered : before.answered = true) :
    after.answered = true := by
  cases leads <;> first | rfl | cases answered

theorem Leads.aside (leads : Leads true before after) (aside : before.aside = true) :
    after.aside = true := by
  cases leads <;> first | rfl | contradiction

theorem Leads.leaves (leads : Leads stopping before after) (leaves : before.leaves = true)
    (unfinished : after ≠ .finished) : after.leaves = true := by
  cases leads <;> first | rfl | contradiction

/-- Only a worker that serves may stay where it is. -/
theorem Leads.left_le (leads : Leads stopping before after) (busy : before ≠ .serving) :
    after.left ≤ before.left - 1 := by
  cases leads <;> first | contradiction | simp only [left, Nat.reduceSub, Nat.reduceLeDiff]

end Stage

namespace Workshop

variable {ids : List SinkId} {shop : Workshop} {handle : Handle} {session : Record}

theorem after_cons (shop : Workshop) (event : WorkshopEvent) (rest : List WorkshopEvent) :
    shop.after (event :: rest) = (shop.step event).after rest := rfl

theorem stage_move_of_ne {other : Handle} (apart : other ≠ handle) (shop : Workshop)
    (stage : Stage) : (shop.move handle stage).stage other = shop.stage other := by
  simp only [move, Function.update_of_ne apart]

theorem stage_on (shop : Workshop) (board : Switchboard) : (shop.on board).stage = shop.stage := rfl

/-- The next step of a worker leads to one of the stages that may follow. -/
theorem leads_work (shop : Workshop) (handle : Handle) (session : Record) (stopped : Bool) :
    (shop.stage handle).Leads shop.board.stopping
      ((shop.work handle session stopped).stage handle) := by
  cases here : shop.stage handle with
  | waiting | registered =>
    simp only [work, here, stage_move]
    cases told : shop.board.stopping with
    | false => first | exact .takes rfl | exact .admits rfl
    | true => first | exact .refuses rfl | exact .drops rfl
  | taken =>
    simp only [work, here, stage_move]
    exact .enters
  | admitted =>
    simp only [work, here]
    rcases shop.board.activate handle with ⟨⟨error⟩ | ⟨⟨⟩⟩, board⟩
    · simp only [stage_move]
      exact .fails
    · simp only [stage_move]
      exact .answers
  | serving =>
    simp only [work, here]
    cases nextRequest stopped session.arrivals with
    | waiting =>
      rw [here]
      exact .waits
    | closed =>
      simp only [stage_move]
      exact .ends
    | failed error =>
      simp only [stage_move]
      exact .ends
    | malformed opcode rest =>
      change Stage.Leads _ _ (shop.stage handle)
      rw [here]
      exact .waits
    | request request rest =>
      simp only [stage_move]
      exact .reads request
  | holding request =>
    simp only [work, here, stage_move]
    split
    · exact .goesOn request
    · exact .quits request
  | leaving =>
    simp only [work, here]
    split
    · simp only [stage_move]
      exact .finds
    · simp only [stage_move]
      exact .closes
  | clearing =>
    simp only [work, here, stage_move]
    exact .withdraws
  | releasing =>
    simp only [work, here, stage_move]
    exact .releases
  | closing =>
    simp only [work, here, stage_move]
    exact .finishes
  | finished =>
    simp only [work, here]
    exact .rests

/-- A worker moves its own session. -/
theorem stage_work_of_ne {other : Handle} (apart : other ≠ handle) (shop : Workshop)
    (session : Record) (stopped : Bool) :
    (shop.work handle session stopped).stage other = shop.stage other := by
  cases here : shop.stage handle with
  | admitted =>
    simp only [work, here]
    rcases shop.board.activate handle with ⟨⟨error⟩ | ⟨⟨⟩⟩, board⟩ <;>
      simp only [stage_move_of_ne apart, stage_on]
  | serving =>
    simp only [work, here]
    cases nextRequest stopped session.arrivals <;>
      simp only [stage_move_of_ne apart, keep, stage_on]
  | leaving =>
    simp only [work, here]
    split
    · simp only [stage_move_of_ne apart]
    · simp only [stage_move_of_ne apart]
      rfl
  | waiting | taken | registered | holding | clearing | releasing | closing | finished =>
    simp only [work, here, stage_move_of_ne apart, stage_on]

theorem stage_step_work_of_ne {other : Handle} (apart : other ≠ handle) (shop : Workshop)
    (stopped : Bool) : (shop.step (.work handle stopped)).stage other = shop.stage other := by
  cases present : shop.board.session? handle with
  | none => simp only [step, present]
  | some session =>
    rw [step_work present]
    exact shop.stage_work_of_ne apart session stopped

/-- A forced disconnect moves no worker. -/
theorem stage_advance (shop : Workshop) (number : Nat) :
    (shop.step (.advance number)).stage = shop.stage := by
  unfold step advance
  dsimp only
  split
  · rfl
  · split
    · rfl
    · split
      · rfl
      · split
        · split <;> rfl
        · rfl
        · rfl

/-- A step leaves a worker where it is or leads it on. -/
theorem leads_step (shop : Workshop) (event : WorkshopEvent) (handle : Handle) :
    (shop.step event).stage handle = shop.stage handle ∨
      (shop.stage handle).Leads shop.board.stopping ((shop.step event).stage handle) := by
  cases event with
  | work other stopped =>
    by_cases own : handle = other
    · subst own
      cases present : shop.board.session? handle with
      | none => exact .inl (by simp only [step, present])
      | some session =>
        rw [step_work present]
        exact .inr (shop.leads_work handle session stopped)
    · exact .inl (shop.stage_step_work_of_ne own stopped)
  | leave other =>
    unfold step
    dsimp only
    split
    · next serving =>
      by_cases own : handle = other
      · subst own
        rw [stage_move, serving]
        exact .inr .ends
      · exact .inl (stage_move_of_ne own shop .leaving)
    · exact .inl rfl
  | advance number => exact .inl (congrFun (shop.stage_advance number) handle)
  | arrive | drain | stop | call => exact .inl rfl

/-- A worker that sees that it is to stop comes closer to the end. -/
theorem left_work (shop : Workshop) (handle : Handle) (session : Record) :
    ((shop.work handle session true).stage handle).left ≤ (shop.stage handle).left - 1 := by
  cases here : shop.stage handle with
  | serving =>
    have closed : nextRequest true session.arrivals = .closed := by
      cases arrivals : session.arrivals <;> rfl
    simp only [work, here, closed, stage_move, Stage.left, Nat.reduceSub, Nat.le_refl]
  | _ => exact here ▸ (shop.leads_work handle session true).left_le (by simp [here])

theorem stopping_register (board : Switchboard) (handle : Handle) :
    (board.register handle).stopping = board.stopping := by
  unfold Switchboard.register
  cases board.session? handle <;> rfl

theorem stopping_activate (board : Switchboard) (handle : Handle) :
    (board.activate handle).2.stopping = board.stopping := by
  unfold Switchboard.activate
  cases board.session? handle with
  | none => rfl
  | some session =>
    dsimp only
    split <;> rfl

theorem stopping_apply (board : Switchboard) (handle : Handle) (request : Request) :
    (board.apply handle request).2.stopping = board.stopping := by
  unfold Switchboard.apply
  cases board.session? handle with
  | none => rfl
  | some session => cases request <;> rfl

theorem stopping_work (shop : Workshop) (handle : Handle) (session : Record) (stopped : Bool) :
    (shop.work handle session stopped).board.stopping = shop.board.stopping := by
  cases here : shop.stage handle with
  | taken =>
    simp only [work, here]
    exact stopping_register shop.board handle
  | admitted =>
    have kept := stopping_activate shop.board handle
    simp only [work, here]
    rcases activated : shop.board.activate handle with ⟨⟨error⟩ | ⟨⟨⟩⟩, board⟩ <;>
      (rw [activated] at kept; exact kept)
  | serving =>
    simp only [work, here]
    cases nextRequest stopped session.arrivals <;> rfl
  | holding request =>
    simp only [work, here]
    exact stopping_apply shop.board handle request
  | leaving =>
    simp only [work, here]
    split <;> rfl
  | finished => simp only [work, here]
  | waiting | registered | clearing | releasing | closing =>
    simp only [work, here]
    rfl

/-- A pool that is told to stop is not told otherwise. -/
theorem stopping_step (told : shop.board.stopping = true) (event : WorkshopEvent) :
    (shop.step event).board.stopping = true := by
  cases event with
  | work handle stopped =>
    cases present : shop.board.session? handle with
    | none =>
      simp only [step, present]
      exact told
    | some session =>
      rw [step_work present, stopping_work]
      exact told
  | leave handle =>
    unfold step
    dsimp only
    split <;> exact told
  | advance number =>
    unfold step advance
    dsimp only
    split
    · exact told
    · split
      · exact told
      · split
        · exact told
        · split
          · split <;> exact told
          · exact told
          · exact told
  | arrive | drain | call => exact told
  | stop => rfl

/-- Where nothing comes between, a worker that takes a session too late does what finishing it is. -/
theorem board_after_refusal (present : shop.board.session? handle = some session)
    (waiting : shop.stage handle = .waiting) (told : shop.board.stopping = true)
    (stopped : Bool) :
    let later := shop.after (List.replicate 5 (.work handle stopped))
    later.board = shop.board.finish handle ∧ later.stage handle = .finished := by
  have first : shop.step (.work handle stopped) = shop.move handle .leaving := by
    rw [step_work present]
    simp only [work, waiting, if_pos told]
  have presentThen : (shop.move handle .leaving).board.session? handle = some session := present
  rw [List.replicate_succ, after_cons, first]
  exact board_after_leaving presentThen (stage_move ..) stopped

/-- Where nothing comes between, a worker that takes a session while the pool runs enters it in the
table and activates it. -/
theorem board_after_admission (present : shop.board.session? handle = some session)
    (waiting : shop.stage handle = .waiting) (running : shop.board.stopping = false)
    (connecting : session.phase = .connecting) (stopped : Bool) :
    let later := shop.after (List.replicate 4 (.work handle stopped))
    (shop.board.register handle).activate handle = (.ok (), later.board) ∧
      later.stage handle = .serving := by
  let taken := shop.move handle .taken
  let entered := (taken.on (shop.board.register handle)).move handle .registered
  let admitted := entered.move handle .admitted
  have registered : (shop.board.register handle).session? handle = some session := by
    unfold Switchboard.register
    rw [present]
    exact present
  have first : shop.step (.work handle stopped) = taken := by
    rw [step_work present]
    simp only [work, waiting, running, Bool.false_eq_true, ↓reduceIte, taken]
  have second : taken.step (.work handle stopped) = entered := by
    have there : taken.board.session? handle = some session := present
    rw [step_work there]
    simp only [work, taken, stage_move, entered]
    rfl
  have third : entered.step (.work handle stopped) = admitted := by
    have there : entered.board.session? handle = some session := registered
    have still : entered.board.stopping = false :=
      (stopping_register shop.board handle).trans running
    rw [step_work there]
    simp only [work, entered, stage_move]
    rw [if_neg (Bool.eq_false_iff.mp still)]
  have activates := @activate_of_connecting admitted handle session registered connecting
  have fourth : admitted.step (.work handle stopped) =
      (admitted.on (admitted.board.activate handle).2).move handle .serving := by
    have there : admitted.board.session? handle = some session := registered
    have stage : admitted.stage handle = .admitted := stage_move ..
    rw [step_work there]
    simp only [work, stage, activates]
  have run : shop.after (List.replicate 4 (.work handle stopped)) =
      (admitted.on (admitted.board.activate handle).2).move handle .serving := by
    simp only [List.replicate_succ, List.replicate_zero, after_cons, first, second, third, fourth]
    rfl
  simp only [run, stage_move, and_true]
  change admitted.board.activate handle = (.ok (), (admitted.board.activate handle).2)
  rw [activates]

theorem transition_refl (shop : Workshop) : shop.Transition shop :=
  .calm shop.board (calm_refl shop)

/-- No step does away with a session. -/
theorem Transition.session?_ne_none {next : Workshop} (transition : shop.Transition next)
    (there : shop.board.session? handle ≠ none) : next.board.session? handle ≠ none := by
  have standing : ∀ board : Switchboard,
      board.standing? handle = none ↔ board.session? handle = none := fun _ => Option.map_eq_none_iff
  rw [ne_eq, ← standing] at there ⊢
  rcases transition.standings handle with same | ⟨id, before, later, -, present, -⟩
  · rwa [same]
  · rw [present]
    nofun

/-- A forced disconnect reaches a session, now or when the next one begins. -/
def Reaches (shop : Workshop) (handle : Handle) : Prop :=
  (∃ entry ∈ shop.board.table, entry.2 = handle) ∨ ∃ sweep ∈ shop.sweeps, handle ∈ sweep.rest

/-- Only its own worker brings a session within the reach of forced disconnects. -/
theorem Transition.reaches {next : Workshop} (transition : shop.Transition next)
    (reached : next.Reaches handle) : shop.Reaches handle ∨ shop.stage handle = .taken := by
  have calmly : ∀ board, shop.Calm board → (shop.on board).Reaches handle → shop.Reaches handle :=
    fun _ calm => Or.imp_left fun ⟨entry, member, own⟩ => ⟨entry, calm.listed entry member, own⟩
  have shortened : ∀ (number : Nat) (sweep later : Sweep) (table : List (SinkId × Handle)),
      shop.sweeps[number]? = some sweep → (∀ handle ∈ later.rest, handle ∈ sweep.rest) →
      (∀ entry ∈ table, entry ∈ shop.board.table) →
      ((∃ entry ∈ table, entry.2 = handle) ∨
        ∃ sweep ∈ shop.sweeps.set number later, handle ∈ sweep.rest) → shop.Reaches handle := by
    rintro number sweep later table found fewer listed (⟨entry, member, own⟩ | ⟨other, member, waits⟩)
    · exact .inl ⟨entry, listed entry member, own⟩
    · rcases List.mem_or_eq_of_mem_set member with old | rfl
      · exact .inr ⟨other, old, waits⟩
      · exact .inr ⟨sweep, List.mem_of_getElem? found, fewer handle waits⟩
  cases transition with
  | calm board calm => exact .inl (calmly board calm reached)
  | moved board calm => exact .inl (calmly board calm reached)
  | registered other session present taken =>
    rcases reached with ⟨entry, member, own⟩ | swept
    · change entry ∈ (shop.board.register other).table at member
      unfold Switchboard.register at member
      rw [present] at member
      rcases List.mem_append.mp member with old | new
      · exact .inl (.inl ⟨entry, List.mem_of_mem_filter old, own⟩)
      · obtain rfl := List.mem_singleton.mp new
        exact .inr (own ▸ taken)
    · exact .inl (.inr swept)
  | activated other session present connecting =>
    have table : (shop.board.activate other).2.table = shop.board.table := by
      rw [activate_of_connecting present connecting]
      rfl
    exact .inl (Or.imp_left (fun ⟨entry, member, own⟩ => ⟨entry, table ▸ member, own⟩) reached)
  | seized => exact .inl reached
  | drained =>
    rcases reached with ⟨_, none, _⟩ | ⟨sweep, member, waits⟩
    · cases none
    · rcases List.mem_append.mp member with old | new
      · exact .inl (.inr ⟨sweep, old, waits⟩)
      · rw [List.mem_singleton.mp new] at waits
        exact .inl (.inl (List.mem_map.mp waits))
  | passed number sweep other rest found remaining =>
    refine .inl (shortened number sweep _ _ found ?_ (fun _ member => member) reached)
    exact fun _ member => remaining ▸ List.mem_cons_of_mem _ member
  | caught number sweep other rest found =>
    exact .inl (shortened number sweep { sweep with stage := .clearing } _ found
      (fun _ member => member) (fun _ member => member) reached)
  | withdrew number sweep other rest found =>
    exact .inl (shortened number sweep { sweep with stage := .releasing } _ found
      (fun _ member => member) (fun _ member => List.mem_of_mem_filter member) reached)
  | released number sweep other rest found remaining =>
    refine .inl (shortened number sweep _ _ found ?_ (fun _ member => member) reached)
    exact fun _ member => remaining ▸ List.mem_cons_of_mem _ member

/-- Nothing about a session has changed: neither its record, nor how far its worker is, nor what it
is subscribed to. -/
structure Untouched (shop next : Workshop) (handle : Handle) : Prop where
  session : next.board.session? handle = shop.board.session? handle
  stage : next.stage handle = shop.stage handle
  subscriptions : ∀ session, shop.board.session? handle = some session → ∀ key,
    (next.board.hub.store.members key).filter (fun sink => sink.id = session.id) =
      (shop.board.hub.store.members key).filter fun sink => sink.id = session.id

theorem untouched_drain (shop : Workshop) (handle : Handle) :
    shop.Untouched (shop.step .drain) handle := ⟨rfl, rfl, fun _ _ _ => rfl⟩

/-- A forced disconnect leaves a session alone that it does not reach. -/
theorem Orderly.untouched_advance (orderly : shop.Orderly ids) (free : ¬ shop.Reaches handle)
    (number : Nat) : shop.Untouched (shop.step (.advance number)) handle := by
  have same : shop.Untouched shop handle := ⟨rfl, rfl, fun _ _ _ => rfl⟩
  cases found : shop.sweeps[number]? with
  | none =>
    simp only [step, found]
    exact same
  | some sweep =>
    cases remaining : sweep.rest with
    | nil =>
      simp only [step, found, remaining]
      exact same
    | cons other rest =>
      have apart : handle ≠ other := by
        rintro rfl
        exact free (.inr ⟨sweep, List.mem_of_getElem? found, remaining ▸ List.mem_cons_self⟩)
      have still := shop.stage_advance number
      rw [step_advance found remaining] at still ⊢
      cases present : shop.board.session? other with
      | none =>
        simp only [advance, present]
        exact ⟨rfl, rfl, fun _ _ _ => rfl⟩
      | some target =>
        have spares := spares_advance shop number sweep rest present
        refine ⟨spares.sessions handle apart, congrFun still handle, ?_⟩
        intro session there key
        have distinct : session.id ≠ target.id := fun equal => apart
          (orderly.distinct _ _ _ _ _ (Switchboard.standing?_of_present there)
            (equal ▸ Switchboard.standing?_of_present present))
        -- The sinks of the session are among those that are not of the target.
        have among : ∀ sinks : List Sink, sinks.filter (fun sink => sink.id = session.id) =
            (sinks.filter fun sink => sink.id ≠ target.id).filter
              fun sink => sink.id = session.id := by
          intro sinks
          rw [List.filter_filter]
          refine List.filter_congr fun sink _ => ?_
          by_cases own : sink.id = session.id <;> simp [own, distinct]
        rw [among, spares.subscriptions key, ← among]

end Workshop

end WatchedStore.Session
