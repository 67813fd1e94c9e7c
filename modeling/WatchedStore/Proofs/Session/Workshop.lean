import Mathlib.Logic.Function.Basic
import WatchedStore.Proofs.Store.Run
import WatchedStore.Session.Serve
import WatchedStore.Session.WorkerPool

/-! # Workers and forced disconnects, step by step

Closing a session takes three steps: its state changes, it leaves the table, its subscriptions are
released. A worker takes more of them: it looks at the stop flag twice, it reads a request and
carries it out. A workshop is a switchboard on which any number of workers and of forced disconnects
stand between two such steps, so its runs are all the orders in which the steps can fall. Done one
after the other by one party they are what the switchboard does as a whole.

What a session's own thread does with queued notifications takes part in no step here: it touches
neither states nor the table nor subscriptions.
-/

namespace WatchedStore.Session

open WatchedStore.Wire

/-- How far the worker of a session is with it. -/
inductive Stage
  /-- No worker has taken the session. -/
  | waiting
  /-- A worker has taken it, while the pool was running. -/
  | taken
  /-- It is entered in the table. -/
  | registered
  /-- The pool was still running after the entry. -/
  | admitted
  /-- Between two requests. -/
  | serving
  /-- A request is read and not carried out. -/
  | holding (request : Request)
  /-- Tearing down begins. -/
  | leaving
  /-- The worker has closed it and goes to take it out of the table. -/
  | clearing
  /-- It goes to release the subscriptions. -/
  | releasing
  /-- It goes to give up the mailbox. -/
  | closing
  | finished
deriving DecidableEq, Repr

/-- Who closed a session: its worker, or the forced disconnect of a number. -/
inductive Closer
  | worker
  | sweep (number : Nat)
deriving DecidableEq, Repr

/-- How far a forced disconnect is with the first of the sessions that it has not done. -/
inductive SweepStage
  | next
  | clearing
  | releasing
deriving DecidableEq, Repr

/-- A forced disconnect under way. -/
structure Sweep where
  /-- The sessions that it took out of the table when it began. -/
  targets : List Handle
  /-- Those that it has not done. -/
  rest : List Handle
  stage : SweepStage
  /-- Those that it has closed; it answers with their number. -/
  closed : List Handle
deriving DecidableEq, Repr

/-- A switchboard between two steps of its workers and of the forced disconnects, with a log of who
closed which session. -/
structure Workshop where
  board : Switchboard
  stage : Handle → Stage
  /-- The forced disconnects, in the order in which they began. -/
  sweeps : List Sweep
  log : List (Handle × Closer)

/-- A step of somebody. -/
inductive WorkshopEvent
  /-- The next step of the worker of a session. While it waits for a request it looks whether to
  stop; what it saw may be out of date. -/
  | work (handle : Handle) (stopped : Bool)
  /-- The worker of a session gives up between two requests: a channel failed or is to be closed. -/
  | leave (handle : Handle)
  /-- The client of a session sends something. -/
  | arrive (handle : Handle) (arrivals : List Arrival)
  /-- A forced disconnect begins: it takes all sessions out of the table. -/
  | drain
  /-- The next step of the forced disconnect of a number. -/
  | advance (number : Nat)
  /-- The pool is told to stop. -/
  | stop
  /-- Somebody else calls the store. -/
  | call (call : Call)
deriving DecidableEq, Repr

/-- The sinks that others subscribe are no sinks of sessions. -/
def WorkshopEvent.IsForeign (ids : List SinkId) : WorkshopEvent → Prop
  | call (.subscribe _ sink) => sink.id ∉ ids
  | _ => True

namespace Switchboard

/-- The state of a session changes to disconnected, and its notifications end. -/
def seize (board : Switchboard) (handle : Handle) : Switchboard :=
  board.edit handle fun session => { session with phase := .disconnected, notifying := false }

/-- An identity leaves the table. -/
def withdraw (board : Switchboard) (id : SinkId) : Switchboard := (board.unregister id).2

/-- The subscriptions of an identity are released. -/
def release (board : Switchboard) (id : SinkId) : Switchboard :=
  { board with hub := (board.hub.unsubscribeAll id).2 }

/-- A mailbox is given up. -/
def abandon (board : Switchboard) (slot : Nat) : Switchboard :=
  { board with hub := board.hub.closeMailbox slot }

variable {board : Switchboard} {handle : Handle} {session : Record}

/-- Closing a session that is open takes three steps. -/
theorem disconnect_of_open (present : board.session? handle = some session)
    (unclosed : session.phase ≠ .disconnected) :
    board.disconnect handle = (true, ((board.seize handle).withdraw session.id).release session.id) := by
  unfold disconnect
  rw [present]
  dsimp only
  rw [if_neg unclosed]
  rfl

theorem disconnect_of_closed (present : board.session? handle = some session)
    (closed : session.phase = .disconnected) : board.disconnect handle = (false, board) := by
  unfold disconnect
  rw [present]
  exact if_pos closed

theorem finish_of_open (present : board.session? handle = some session)
    (unclosed : session.phase ≠ .disconnected) :
    board.finish handle =
      (((board.seize handle).withdraw session.id).release session.id).abandon session.slot := by
  unfold finish
  rw [present, disconnect_of_open present unclosed]
  rfl

/-- A session that somebody else closed loses the subscriptions that came in since. -/
theorem finish_of_closed (present : board.session? handle = some session)
    (closed : session.phase = .disconnected) :
    board.finish handle = (board.release session.id).abandon session.slot := by
  unfold finish
  rw [present, disconnect_of_closed present closed]
  rfl

end Switchboard

namespace Workshop

/-- No worker has taken a session and no forced disconnect has begun. -/
def start (board : Switchboard) : Workshop := ⟨board, fun _ => .waiting, [], []⟩

/-- The worker of a session comes to another stage. -/
def move (shop : Workshop) (handle : Handle) (stage : Stage) : Workshop :=
  { shop with stage := Function.update shop.stage handle stage }

/-- The switchboard changes. -/
def on (shop : Workshop) (board : Switchboard) : Workshop := { shop with board := board }

/-- Somebody closes a session and writes it down. -/
def seize (shop : Workshop) (handle : Handle) (closer : Closer) : Workshop :=
  { shop with board := shop.board.seize handle, log := shop.log ++ [(handle, closer)] }

/-- A forced disconnect comes further. -/
def setSweep (shop : Workshop) (number : Nat) (sweep : Sweep) : Workshop :=
  { shop with sweeps := shop.sweeps.set number sweep }

/-- What is left on the request channel of a session. -/
def keep (shop : Workshop) (handle : Handle) (arrivals : List Arrival) : Workshop :=
  shop.on (shop.board.edit handle fun session => { session with arrivals := arrivals })

/-- The next step of the worker of a session. -/
def work (shop : Workshop) (handle : Handle) (session : Record) (stopped : Bool) : Workshop :=
  match shop.stage handle with
  | .waiting => shop.move handle (if shop.board.stopping then .leaving else .taken)
  | .taken => (shop.on (shop.board.register handle)).move handle .registered
  | .registered => shop.move handle (if shop.board.stopping then .leaving else .admitted)
  | .admitted =>
    match shop.board.activate handle with
    | (.ok (), board) => (shop.on board).move handle .serving
    | (.error _, board) => (shop.on board).move handle .leaving
  | .serving =>
    match nextRequest stopped session.arrivals with
    | .waiting => shop
    | .closed => (shop.keep handle [.ended]).move handle .leaving
    | .failed _ => (shop.keep handle [.ended]).move handle .leaving
    | .malformed opcode rest =>
      (shop.on (shop.board.respond handle ⟨opcode, .badRequest⟩)).keep handle rest
    | .request request rest => (shop.keep handle rest).move handle (.holding request)
  | .holding request =>
    let (goesOn, board) := shop.board.apply handle request
    (shop.on board).move handle (if goesOn then .serving else .leaving)
  | .leaving =>
    if session.phase = .disconnected then shop.move handle .releasing
    else (shop.seize handle .worker).move handle .clearing
  | .clearing => (shop.on (shop.board.withdraw session.id)).move handle .releasing
  | .releasing => (shop.on (shop.board.release session.id)).move handle .closing
  | .closing => (shop.on (shop.board.abandon session.slot)).move handle .finished
  | .finished => shop

/-- The next step of a forced disconnect at the first of its sessions. -/
def advance (shop : Workshop) (number : Nat) (sweep : Sweep) (handle : Handle)
    (rest : List Handle) : Workshop :=
  match shop.board.session? handle with
  | none => shop.setSweep number { sweep with rest := rest, stage := .next }
  | some session =>
    match sweep.stage with
    | .next =>
      if session.phase = .disconnected then shop.setSweep number { sweep with rest := rest }
      else (shop.seize handle (.sweep number)).setSweep number { sweep with stage := .clearing }
    | .clearing =>
      (shop.on (shop.board.withdraw session.id)).setSweep number { sweep with stage := .releasing }
    | .releasing =>
      (shop.on (shop.board.release session.id)).setSweep number
        { sweep with rest := rest, stage := .next, closed := sweep.closed ++ [handle] }

/-- A step of somebody; without the session or the forced disconnect that it is about, nothing
happens. -/
def step (shop : Workshop) : WorkshopEvent → Workshop
  | .work handle stopped =>
    match shop.board.session? handle with
    | none => shop
    | some session => shop.work handle session stopped
  | .leave handle => if shop.stage handle = .serving then shop.move handle .leaving else shop
  | .arrive handle arrivals => shop.on (shop.board.arrive handle arrivals)
  | .drain =>
    let targets := shop.board.table.map Prod.snd
    { shop with
      board := { shop.board with table := [] }
      sweeps := shop.sweeps ++ [⟨targets, targets, .next, []⟩] }
  | .advance number =>
    match shop.sweeps[number]? with
    | none => shop
    | some sweep =>
      match sweep.rest with
      | [] => shop
      | handle :: rest => shop.advance number sweep handle rest
  | .stop => shop.on shop.board.stop
  | .call call => shop.on { shop.board with hub := (shop.board.hub.call call).2 }

/-- The workshop after a run of steps. -/
def after (shop : Workshop) (events : List WorkshopEvent) : Workshop := events.foldl step shop

variable {shop : Workshop} {handle : Handle} {session : Record}

theorem step_work (present : shop.board.session? handle = some session) (stopped : Bool) :
    shop.step (.work handle stopped) = shop.work handle session stopped := by
  simp only [step, present]

@[simp] theorem stage_move (shop : Workshop) (handle : Handle) (stage : Stage) :
    (shop.move handle stage).stage handle = stage := by
  simp only [move, Function.update_self]

/-- A worker that is done with a session does nothing more. -/
theorem after_finished (finished : shop.stage handle = .finished) (stopped : Bool) (count : Nat) :
    shop.after (List.replicate count (.work handle stopped)) = shop := by
  induction count with
  | zero => rfl
  | succ count ih =>
    have idle : shop.step (.work handle stopped) = shop := by
      unfold step
      dsimp only
      cases shop.board.session? handle with
      | none => rfl
      | some session => simp only [work, finished]
    rw [List.replicate_succ, after, List.foldl_cons, idle]
    exact ih

theorem after_releasing (present : shop.board.session? handle = some session)
    (releasing : shop.stage handle = .releasing) (stopped : Bool) (count : Nat) :
    let later := shop.after (List.replicate (count + 2) (.work handle stopped))
    later.board = (shop.board.release session.id).abandon session.slot ∧
      later.stage handle = .finished := by
  let released := (shop.on (shop.board.release session.id)).move handle .closing
  have presentThen : released.board.session? handle = some session := present
  have first : shop.step (.work handle stopped) = released := by
    rw [step_work present]
    simp only [work, releasing, released]
  have second : released.step (.work handle stopped) =
      (released.on (released.board.abandon session.slot)).move handle .finished := by
    rw [step_work presentThen]
    simp only [work, released, stage_move]
  have run : shop.after (List.replicate (count + 2) (.work handle stopped)) =
      (released.on (released.board.abandon session.slot)).move handle .finished := by
    rw [List.replicate_succ, List.replicate_succ, after, List.foldl_cons, List.foldl_cons, first,
      second]
    exact after_finished (stage_move ..) stopped count
  simp only [run, stage_move, and_true]
  rfl

/-- Where nothing comes between the steps of a worker that tears its session down, they are what
finishing the session is. -/
theorem board_after_leaving (present : shop.board.session? handle = some session)
    (leaving : shop.stage handle = .leaving) (stopped : Bool) :
    let later := shop.after (List.replicate 4 (.work handle stopped))
    later.board = shop.board.finish handle ∧ later.stage handle = .finished := by
  by_cases closed : session.phase = .disconnected
  · have first : shop.step (.work handle stopped) = shop.move handle .releasing := by
      rw [step_work present]
      simp only [work, leaving, if_pos closed]
    have presentThen : (shop.move handle .releasing).board.session? handle = some session := present
    rw [Switchboard.finish_of_closed present closed, List.replicate_succ, after, List.foldl_cons,
      first]
    exact after_releasing presentThen (stage_move ..) stopped 1
  · let seized := (shop.seize handle .worker).move handle .clearing
    let withdrawn := (seized.on (seized.board.withdraw session.id)).move handle .releasing
    have first : shop.step (.work handle stopped) = seized := by
      rw [step_work present]
      simp only [work, leaving, if_neg closed, seized]
    have presentThen : seized.board.session? handle =
        some { session with phase := .disconnected, notifying := false } := by
      change (shop.board.sessions.modify handle _)[handle]? = _
      rw [List.getElem?_modify_eq]
      exact congrArg (Option.map _) present
    have second : seized.step (.work handle stopped) = withdrawn := by
      rw [step_work presentThen]
      simp only [work, seized, stage_move, withdrawn]
    rw [Switchboard.finish_of_open present closed, List.replicate_succ, List.replicate_succ, after,
      List.foldl_cons, List.foldl_cons, first, second]
    exact @after_releasing withdrawn handle _ presentThen (stage_move ..) stopped 0

variable {number : Nat} {sweep : Sweep}

theorem step_advance (found : shop.sweeps[number]? = some sweep) {rest : List Handle}
    (remaining : sweep.rest = handle :: rest) :
    shop.step (.advance number) = shop.advance number sweep handle rest := by
  simp only [step, found, remaining]

/-- A forced disconnect that has done all its sessions does nothing more. -/
theorem after_done (found : shop.sweeps[number]? = some sweep) (done : sweep.rest = [])
    (count : Nat) : shop.after (List.replicate count (.advance number)) = shop := by
  induction count with
  | zero => rfl
  | succ count ih =>
    have idle : shop.step (.advance number) = shop := by
      simp only [step, found, done]
    rw [List.replicate_succ, after, List.foldl_cons, idle]
    exact ih

theorem sweeps_setSweep (found : shop.sweeps[number]? = some sweep) (next : Sweep) :
    (shop.setSweep number next).sweeps[number]? = some next :=
  List.getElem?_set_self (List.getElem?_eq_some_iff.mp found).1

/-- A session that is there and open takes a forced disconnect three steps. -/
theorem after_advance_of_open (found : shop.sweeps[number]? = some sweep)
    (between : sweep.stage = .next) {rest : List Handle} (remaining : sweep.rest = handle :: rest)
    (present : shop.board.session? handle = some session)
    (unclosed : session.phase ≠ .disconnected) :
    let later := shop.after (List.replicate 3 (.advance number))
    later.board = (shop.board.disconnect handle).2 ∧
      later.sweeps[number]? = some
        { sweep with rest := rest, stage := .next, closed := sweep.closed ++ [handle] } := by
  let clearing : Sweep := { sweep with stage := .clearing }
  let seized := (shop.seize handle (.sweep number)).setSweep number clearing
  let withdrawn := (seized.on (seized.board.withdraw session.id)).setSweep number
    { clearing with stage := .releasing }
  let released := (withdrawn.on (withdrawn.board.release session.id)).setSweep number
    { sweep with rest := rest, stage := .next, closed := sweep.closed ++ [handle] }
  have seizedSweep : seized.sweeps[number]? = some clearing := sweeps_setSweep found _
  have withdrawnSweep : withdrawn.sweeps[number]? = some { clearing with stage := .releasing } :=
    sweeps_setSweep seizedSweep _
  have presentThen : seized.board.session? handle =
      some { session with phase := .disconnected, notifying := false } := by
    change (shop.board.sessions.modify handle _)[handle]? = _
    rw [List.getElem?_modify_eq]
    exact congrArg (Option.map _) present
  have first : shop.step (.advance number) = seized := by
    rw [step_advance found remaining]
    simp only [advance, present, between, if_neg unclosed, seized, clearing]
  have second : seized.step (.advance number) = withdrawn := by
    rw [step_advance seizedSweep remaining]
    simp only [advance, presentThen, clearing, withdrawn]
  have third : withdrawn.step (.advance number) = released := by
    rw [step_advance withdrawnSweep remaining]
    have presentLast : withdrawn.board.session? handle =
        some { session with phase := .disconnected, notifying := false } := presentThen
    simp only [advance, presentLast, released, clearing]
  have run : shop.after (List.replicate 3 (.advance number)) = released := by
    rw [List.replicate_succ, List.replicate_succ, List.replicate_one, after, List.foldl_cons,
      List.foldl_cons, List.foldl_cons, first, second, third]
    rfl
  rw [run, Switchboard.disconnect_of_open present unclosed]
  exact ⟨rfl, sweeps_setSweep withdrawnSweep _⟩

/-- A session that is not there or closed takes it one step. -/
theorem step_advance_of_closed (found : shop.sweeps[number]? = some sweep)
    (between : sweep.stage = .next) {rest : List Handle} (remaining : sweep.rest = handle :: rest)
    (closed : ∀ session, shop.board.session? handle = some session →
      session.phase = .disconnected) :
    shop.step (.advance number) = shop.setSweep number { sweep with rest := rest } ∧
      shop.board.disconnect handle = (false, shop.board) := by
  rw [step_advance found remaining]
  cases present : shop.board.session? handle with
  | none =>
    simp only [advance, present, between, true_and]
    unfold Switchboard.disconnect
    rw [present]
  | some session =>
    have shut := closed session present
    refine ⟨?_, Switchboard.disconnect_of_closed present shut⟩
    simp only [advance, present, between, if_pos shut]

theorem after_advances (found : shop.sweeps[number]? = some sweep) (between : sweep.stage = .next)
    {count : Nat} (enough : 3 * sweep.rest.length ≤ count) :
    let later := shop.after (List.replicate count (.advance number))
    later.board = (shop.board.disconnectEach sweep.rest).2 ∧
      ∃ closed, later.sweeps[number]? = some ⟨sweep.targets, [], .next, sweep.closed ++ closed⟩ ∧
        closed.length = (shop.board.disconnectEach sweep.rest).1 := by
  obtain ⟨targets, rest, stage, before⟩ := sweep
  obtain rfl : stage = .next := between
  dsimp only at enough ⊢
  induction rest generalizing shop before count with
  | nil =>
    rw [after_done found rfl]
    exact ⟨rfl, [], by rw [found, List.append_nil], rfl⟩
  | cons handle rest ih =>
    rw [List.length_cons] at enough
    by_cases shut : ∀ session, shop.board.session? handle = some session →
        session.phase = .disconnected
    · obtain ⟨first, unchanged⟩ := step_advance_of_closed found rfl rfl shut
      obtain ⟨count, rfl⟩ : ∃ fewer, count = fewer + 1 := ⟨count - 1, by omega⟩
      rw [List.replicate_succ, after, List.foldl_cons, first, Switchboard.disconnectEach, unchanged]
      exact ih _ (sweeps_setSweep found _) (by omega)
    · obtain ⟨session, present, unclosed⟩ : ∃ session, shop.board.session? handle = some session ∧
          session.phase ≠ .disconnected := by
        simpa only [not_forall, exists_prop] using shut
      obtain ⟨count, rfl⟩ : ∃ fewer, count = 3 + fewer := ⟨count - 3, by omega⟩
      obtain ⟨board, sweeps⟩ := after_advance_of_open found rfl rfl present unclosed
      have first : (shop.board.disconnect handle).1 = true := by
        rw [Switchboard.disconnect_of_open present unclosed]
      obtain ⟨boardThen, closed, sweepThen, counted⟩ := ih _ sweeps (show 3 * rest.length ≤ count by omega)
      rw [board] at boardThen counted
      rw [List.replicate_add, after, List.foldl_append, Switchboard.disconnectEach]
      refine ⟨boardThen, handle :: closed, ?_, ?_⟩
      · rw [List.append_cons]
        exact sweepThen
      · simp only [first, ↓reduceIte, List.length_cons, counted]

/-- Where nothing comes between the steps of a forced disconnect, they are what disconnecting all
sessions is, and it has closed as many as it answers. -/
theorem board_after_drain (shop : Workshop) {count : Nat}
    (enough : 3 * shop.board.table.length ≤ count) :
    let number := shop.sweeps.length
    let later := shop.after (.drain :: List.replicate count (.advance number))
    later.board = shop.board.disconnectAll.2 ∧
      ∃ closed, later.sweeps[number]? =
          some ⟨shop.board.table.map Prod.snd, [], .next, closed⟩ ∧
        closed.length = shop.board.disconnectAll.1 := by
  intro number later
  let targets := shop.board.table.map Prod.snd
  have begun : (shop.step .drain).sweeps[number]? = some ⟨targets, targets, .next, []⟩ :=
    List.getElem?_concat_length
  have lengths : targets.length = shop.board.table.length := List.length_map ..
  exact after_advances begun rfl (by rw [lengths]; exact enough)

end Workshop

end WatchedStore.Session
