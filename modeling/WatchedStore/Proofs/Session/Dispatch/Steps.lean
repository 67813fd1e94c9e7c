import WatchedStore.Proofs.Session.Dispatch.Stages

/-! # Dispatching sessions, step by step

The accept loop receives opened sessions one after the other and brings each to the buffer of a pool,
from where a free worker takes it. A full buffer hands the session back; the loop then looks whether it
is asked to stop, and tears the session down itself if so. Asked to stop it leaves its loop, tears down
what is still opened, tells the pool to stop, disconnects what the table holds and waits for the
workers, who go on until the buffer is empty.

All parties stand between two of their steps: the accept loop, every worker, and any number of forced
disconnects, which may begin at any time. A log says what has become of which session. The pool of such
a moment is one that a running pool can be; where nothing comes between the steps of one party they are
what the pool does as a whole.
-/

namespace WatchedStore.Session

/-- What becomes of a session. -/
inductive Deed
  /-- The accept loop has received it. -/
  | received
  /-- It is in the buffer. -/
  | submitted
  /-- A worker has taken it. -/
  | taken
  /-- Its CONNECT is answered. -/
  | acknowledged
  /-- It is torn down. -/
  | finished
deriving DecidableEq, Repr

/-- Where the accept loop stands, and with which session. -/
inductive Door
  /-- Between two sessions. -/
  | accepting
  /-- It brings a session to the buffer. -/
  | holding (handle : Handle)
  /-- The buffer has handed a session back, and it goes to look whether it is asked to stop. -/
  | returned (handle : Handle)
  /-- It was asked to stop and tears down the session that it got back. -/
  | refusing (handle : Handle)
  /-- Out of its loop. -/
  | emptying
  /-- It tears down a session that it has received behind the loop. -/
  | dismissing (handle : Handle)
  /-- The pool is told to stop. -/
  | stopped
  /-- The forced disconnect of a number is under way. -/
  | sweeping (number : Nat)
  /-- Nothing will be submitted any more; it waits for the workers. -/
  | joining
  | closed
deriving DecidableEq, Repr

/-- The sessions that something has become of according to a log, in that order. -/
def Deed.entries (deed : Deed) (log : List (Handle × Deed)) : List Handle :=
  (log.filter fun entry => entry.2 = deed).map Prod.fst

theorem Deed.entries_concat (deed : Deed) (log : List (Handle × Deed)) (handle : Handle)
    (other : Deed) : deed.entries (log ++ [(handle, other)]) =
      deed.entries log ++ if other = deed then [handle] else [] := by
  unfold entries
  rw [List.filter_append, List.map_append]
  congr 1
  by_cases same : other = deed <;> simp [same]

namespace Door

/-- The session that the accept loop brings to the buffer. -/
def held : Door → List Handle
  | holding handle => [handle]
  | returned handle => [handle]
  | _ => []

/-- The session that the accept loop tears down. -/
def torn : Door → List Handle
  | refusing handle => [handle]
  | dismissing handle => [handle]
  | _ => []

end Door

/-- The sessions of an accept loop and of a pool between two steps. -/
structure Dispatch where
  shop : Workshop
  /-- How many workers there are. -/
  workers : Nat
  /-- How many sessions may wait. -/
  capacity : Nat
  /-- The waiting sessions, oldest first. -/
  buffer : List Handle
  /-- The sessions that have a worker. -/
  crew : List Handle
  door : Door
  /-- The accept loop is asked to stop. -/
  asked : Bool
  log : List (Handle × Deed)

/-- A step of somebody. -/
inductive DispatchEvent
  /-- The accept loop receives an opened session, in its loop or behind it. -/
  | receive (handle : Handle)
  /-- The next step of the accept loop. -/
  | proceed
  /-- A free worker takes the session that waits longest. -/
  | take
  /-- The next step of the worker of a session. -/
  | work (handle : Handle) (stopped : Bool)
  /-- The worker of a session gives up between two requests. -/
  | leave (handle : Handle)
  /-- The client of a session sends something. -/
  | arrive (handle : Handle) (arrivals : List Arrival)
  /-- A forced disconnect begins. -/
  | disconnectAll
  /-- The next step of the forced disconnect of a number. -/
  | advance (number : Nat)
  /-- The accept loop is asked to stop. -/
  | shutdown
  /-- Somebody else calls the store. -/
  | call (call : Call)
deriving DecidableEq, Repr

/-- The sinks that others subscribe are no sinks of sessions. -/
def DispatchEvent.IsForeign (ids : List SinkId) : DispatchEvent → Prop
  | call made => (WorkshopEvent.call made).IsForeign ids
  | _ => True

namespace Dispatch

/-- The pool of this moment. -/
def pool (dispatch : Dispatch) : WorkerPool :=
  ⟨dispatch.shop.board, dispatch.workers, dispatch.capacity, dispatch.buffer, dispatch.crew⟩

/-- The sessions that something has become of, in that order. -/
def those (dispatch : Dispatch) (deed : Deed) : List Handle := deed.entries dispatch.log

/-- Where the received sessions are: with the accept loop, in the buffer, with a worker, or
finished. -/
def places (dispatch : Dispatch) : List Handle :=
  dispatch.door.held ++ dispatch.door.torn ++ dispatch.buffer ++ dispatch.crew ++
    dispatch.those .finished

/-- A pool that has just started, and an accept loop that has received nothing. -/
def start (board : Switchboard) (workers capacity : Nat) : Dispatch :=
  let pool := WorkerPool.start board workers capacity
  ⟨.start pool.board, pool.workers, pool.capacity, pool.buffer, pool.serving, .accepting, false, []⟩

/-- Writes down what became of a session. -/
def note (dispatch : Dispatch) (handle : Handle) (deed : Deed) : Dispatch :=
  { dispatch with log := dispatch.log ++ [(handle, deed)] }

/-- A step of a worker, a client or somebody else. -/
def on (dispatch : Dispatch) (event : WorkshopEvent) : Dispatch :=
  { dispatch with shop := dispatch.shop.step event }

/-- The accept loop comes to another place. -/
def go (dispatch : Dispatch) (door : Door) : Dispatch := { dispatch with door := door }

/-- The accept loop begins to tear a session down. -/
def dismiss (dispatch : Dispatch) (handle : Handle) (door : Door) : Dispatch :=
  { dispatch with shop := dispatch.shop.move handle .leaving, door := door }

/-- The next step of the worker of a session. CONNECT is answered on the way from the second look
at the stop flag to serving. -/
def work (dispatch : Dispatch) (handle : Handle) (stopped : Bool) : Dispatch :=
  let next := dispatch.on (.work handle stopped)
  if dispatch.shop.stage handle = .admitted ∧ next.shop.stage handle = .serving then
    next.note handle .acknowledged
  else if next.shop.stage handle = .finished then
    { next.note handle .finished with crew := dispatch.crew.filter (· ≠ handle) }
  else next

/-- The next step of the accept loop as it tears a session down, and where it goes from there. -/
def tear (dispatch : Dispatch) (handle : Handle) (door : Door) : Dispatch :=
  let next := dispatch.on (.work handle true)
  if next.shop.stage handle = .finished then (next.note handle .finished).go door else next

/-- The next step of the accept loop. -/
def proceed (dispatch : Dispatch) : Dispatch :=
  match dispatch.door with
  | .accepting => if dispatch.asked then dispatch.go .emptying else dispatch
  | .holding handle =>
    match dispatch.pool.submit? handle with
    | some pool => { (dispatch.note handle .submitted).go .accepting with buffer := pool.buffer }
    | none => dispatch.go (.returned handle)
  | .returned handle =>
    if dispatch.asked then dispatch.dismiss handle (.refusing handle)
    else dispatch.go (.holding handle)
  | .refusing handle => dispatch.tear handle .accepting
  | .emptying => (dispatch.on .stop).go .stopped
  | .dismissing handle => dispatch.tear handle .emptying
  | .stopped => (dispatch.on .drain).go (.sweeping dispatch.shop.sweeps.length)
  | .sweeping number =>
    if ∃ sweep ∈ dispatch.shop.sweeps[number]?, sweep.rest ≠ [] then dispatch
    else dispatch.go .joining
  | .joining =>
    if dispatch.buffer = [] ∧ dispatch.crew = [] then dispatch.go .closed else dispatch
  | .closed => dispatch

/-- A step of somebody; without the session or the party that it is about, nothing happens. -/
def step (dispatch : Dispatch) : DispatchEvent → Dispatch
  | .receive handle =>
    if handle ∈ dispatch.those .received ∨ dispatch.shop.board.session? handle = none then dispatch
    else
      match dispatch.door with
      | .accepting => (dispatch.note handle .received).go (.holding handle)
      | .emptying => (dispatch.note handle .received).dismiss handle (.dismissing handle)
      | _ => dispatch
  | .proceed => dispatch.proceed
  | .take =>
    match dispatch.buffer with
    | [] => dispatch
    | handle :: rest =>
      if dispatch.crew.length < dispatch.workers then
        { dispatch.note handle .taken with buffer := rest, crew := dispatch.crew ++ [handle] }
      else dispatch
  | .work handle stopped => if handle ∈ dispatch.crew then dispatch.work handle stopped else dispatch
  | .leave handle => if handle ∈ dispatch.crew then dispatch.on (.leave handle) else dispatch
  | .arrive handle arrivals => dispatch.on (.arrive handle arrivals)
  | .disconnectAll => dispatch.on .drain
  | .advance number => dispatch.on (.advance number)
  | .shutdown => { dispatch with asked := true }
  | .call call => dispatch.on (.call call)

/-- The state after a run of steps. -/
def after (dispatch : Dispatch) (events : List DispatchEvent) : Dispatch := events.foldl step dispatch

variable {dispatch : Dispatch} {handle : Handle} {session : Record}

theorem after_cons (dispatch : Dispatch) (event : DispatchEvent) (rest : List DispatchEvent) :
    dispatch.after (event :: rest) = (dispatch.step event).after rest := rfl

theorem after_append (dispatch : Dispatch) (before after : List DispatchEvent) :
    dispatch.after (before ++ after) = (dispatch.after before).after after := List.foldl_append

theorem those_note (dispatch : Dispatch) (handle : Handle) (deed other : Deed) :
    (dispatch.note handle deed).those other =
      dispatch.those other ++ if deed = other then [handle] else [] :=
  other.entries_concat dispatch.log handle deed

/-- What a step of somebody may do. -/
inductive Change (dispatch : Dispatch) (made : DispatchEvent) : Dispatch → Prop
  /-- No session comes to another place. -/
  | goes {door : Door} (asked : Bool) (held : door.held = dispatch.door.held)
      (torn : door.torn = dispatch.door.torn)
      (joined : door = .closed → dispatch.door = .closed ∨ dispatch.buffer = [] ∧ dispatch.crew = []) :
      Change dispatch made { dispatch with door := door, asked := asked }
  /-- Nor does anybody get further with one. -/
  | does (event : WorkshopEvent) {door : Door}
      (foreign : ∀ ids, made.IsForeign ids → event.IsForeign ids)
      (stages : (dispatch.shop.step event).stage = dispatch.shop.stage)
      (held : door.held = dispatch.door.held) (torn : door.torn = dispatch.door.torn)
      (joined : door = .closed → dispatch.door = .closed) :
      Change dispatch made ((dispatch.on event).go door)
  | receives {handle : Handle} (new : handle ∉ dispatch.those .received)
      (present : dispatch.shop.board.session? handle ≠ none) (door : dispatch.door = .accepting) :
      Change dispatch made ((dispatch.note handle .received).go (.holding handle))
  | turnsAway {handle : Handle} (new : handle ∉ dispatch.those .received)
      (present : dispatch.shop.board.session? handle ≠ none) (door : dispatch.door = .emptying) :
      Change dispatch made ((dispatch.note handle .received).dismiss handle (.dismissing handle))
  | submits {handle : Handle} (door : dispatch.door = .holding handle)
      (room : dispatch.buffer.length < dispatch.capacity) :
      Change dispatch made { (dispatch.note handle .submitted).go .accepting with
        buffer := dispatch.buffer ++ [handle] }
  | dismisses {handle : Handle} (door : dispatch.door = .returned handle) :
      Change dispatch made (dispatch.dismiss handle (.refusing handle))
  | tears {handle : Handle} {door : Door}
      (hands : dispatch.door.held = [] ∧ dispatch.door.torn = [handle])
      (free : door.held = [] ∧ door.torn = []) (unclosed : door ≠ .closed) :
      Change dispatch made (dispatch.tear handle door)
  | takes {handle : Handle} {rest : List Handle} (waiting : dispatch.buffer = handle :: rest)
      (free : dispatch.crew.length < dispatch.workers) :
      Change dispatch made { dispatch.note handle .taken with
        buffer := rest, crew := dispatch.crew ++ [handle] }
  | works {handle : Handle} (mine : handle ∈ dispatch.crew) (stopped : Bool) :
      Change dispatch made (dispatch.work handle stopped)
  | leaves {handle : Handle} (mine : handle ∈ dispatch.crew)
      (serving : dispatch.shop.stage handle = .serving) :
      Change dispatch made (dispatch.on (.leave handle))

theorem Change.refl (dispatch : Dispatch) (made : DispatchEvent) : dispatch.Change made dispatch :=
  .goes dispatch.asked rfl rfl .inl

theorem change_proceed (dispatch : Dispatch) (made : DispatchEvent) :
    dispatch.Change made dispatch.proceed := by
  unfold proceed
  cases door : dispatch.door with
  | accepting =>
    dsimp only
    split
    · exact .goes _ (by rw [door]; rfl) (by rw [door]; rfl) nofun
    · exact .refl dispatch made
  | holding handle =>
    dsimp only [pool, WorkerPool.submit?]
    by_cases room : dispatch.buffer.length < dispatch.capacity
    · rw [if_pos room]
      exact .submits door room
    · rw [if_neg room]
      exact .goes _ (by rw [door]; rfl) (by rw [door]; rfl) nofun
  | returned handle =>
    dsimp only
    split
    · exact .dismisses door
    · exact .goes _ (by rw [door]; rfl) (by rw [door]; rfl) nofun
  | refusing handle => exact .tears (by rw [door]; exact ⟨rfl, rfl⟩) ⟨rfl, rfl⟩ nofun
  | dismissing handle => exact .tears (by rw [door]; exact ⟨rfl, rfl⟩) ⟨rfl, rfl⟩ nofun
  | emptying => exact .does .stop (fun _ _ => trivial) rfl (by rw [door]; rfl) (by rw [door]; rfl) nofun
  | stopped => exact .does .drain (fun _ _ => trivial) rfl (by rw [door]; rfl) (by rw [door]; rfl) nofun
  | sweeping number =>
    dsimp only
    split
    · exact .refl dispatch made
    · exact .goes _ (by rw [door]; rfl) (by rw [door]; rfl) nofun
  | joining =>
    dsimp only
    split
    · next idle => exact .goes _ (by rw [door]; rfl) (by rw [door]; rfl) fun _ => .inr idle
    · exact .refl dispatch made
  | closed => exact .refl dispatch made

/-- Every step does one of these things. -/
theorem change_step (dispatch : Dispatch) (event : DispatchEvent) :
    dispatch.Change event (dispatch.step event) := by
  cases event with
  | receive handle =>
    unfold step
    dsimp only
    split
    · exact .refl dispatch _
    · next fresh =>
      obtain ⟨new, present⟩ := not_or.mp fresh
      split
      · next door => exact .receives new present door
      · next door => exact .turnsAway new present door
      · exact .refl dispatch _
  | proceed => exact dispatch.change_proceed _
  | take =>
    unfold step
    dsimp only
    split
    · exact .refl dispatch _
    · next handle rest waiting =>
      split
      · next free => exact .takes waiting free
      · exact .refl dispatch _
  | work handle stopped =>
    unfold step
    dsimp only
    split
    · next mine => exact .works mine stopped
    · exact .refl dispatch _
  | leave handle =>
    unfold step
    dsimp only
    split
    · next mine =>
      by_cases serving : dispatch.shop.stage handle = .serving
      · exact .leaves mine serving
      · have same : dispatch.shop.step (.leave handle) = dispatch.shop := if_neg serving
        rw [on, same]
        exact .refl dispatch _
    · exact .refl dispatch _
  | shutdown => exact .goes true rfl rfl .inl
  | arrive handle arrivals =>
    exact .does (.arrive handle arrivals) (fun _ _ => trivial) rfl rfl rfl id
  | disconnectAll => exact .does .drain (fun _ _ => trivial) rfl rfl rfl id
  | advance number =>
    exact .does (.advance number) (fun _ _ => trivial) (dispatch.shop.stage_advance number) rfl rfl id
  | call call => exact .does (.call call) (fun _ => id) rfl rfl rfl id

/-- How many workers there are, and how many sessions may wait. -/
def sizes (dispatch : Dispatch) : Nat × Nat := (dispatch.workers, dispatch.capacity)

/-- No step changes the size of the pool. -/
theorem Change.sizes_eq {made : DispatchEvent} {next : Dispatch}
    (change : dispatch.Change made next) : next.sizes = dispatch.sizes := by
  cases change with
  | tears hands free unclosed =>
    unfold tear
    dsimp only
    split <;> rfl
  | works mine stopped =>
    unfold work
    dsimp only
    split
    · rfl
    · split <;> rfl
  | goes | does | receives | turnsAway | submits | dismisses | takes | leaves => rfl

theorem sizes_after (dispatch : Dispatch) (events : List DispatchEvent) :
    (dispatch.after events).sizes = dispatch.sizes := by
  induction events generalizing dispatch with
  | nil => rfl
  | cons event rest ih => exact (ih (dispatch.step event)).trans (dispatch.change_step event).sizes_eq

end Dispatch

end WatchedStore.Session
