import WatchedStore.Session.Serve

/-! # The worker pool

A fixed number of workers serve sessions, each one session at a time until it ends. Sessions that
find no worker wait in a bounded buffer and are taken in the order in which they came; a full buffer
hands a session back. A session that is taken after the pool was told to stop is torn down
without an answer. Shutting down closes the sessions being served and tears down those that wait.
-/

namespace WatchedStore.Session

/-- The sessions, those that wait for a worker, and those that have one. -/
structure WorkerPool where
  board : Switchboard
  /-- How many workers there are. -/
  workers : Nat
  /-- How many sessions may wait. -/
  capacity : Nat
  /-- The waiting sessions, oldest first. -/
  buffer : List Handle
  /-- The sessions being served. -/
  serving : List Handle
deriving DecidableEq, Repr

namespace WorkerPool

/-- Starts at least one worker behind a buffer for at least one session. -/
def start (board : Switchboard) (workers capacity : Nat) : WorkerPool :=
  ⟨board, max workers 1, max capacity 1, [], []⟩

/-- The words of one place in the buffer: a mark, and the eleven words of a session. -/
def placeWords : Nat := 12

/-- The words that keep hold of a worker. -/
def workerWords : Nat := 3

/-- Starts a pool if memory can hold its buffer and the list of its workers. -/
def start? (board : Switchboard) (workers capacity : Nat) : Option WorkerPool :=
  if fitsBlock capacity placeWords && fitsBlock workers workerWords then
    some (start board workers capacity)
  else none

/-- Puts a session in the buffer; none when the buffer is full. -/
def submit? (pool : WorkerPool) (handle : Handle) : Option WorkerPool :=
  if pool.buffer.length < pool.capacity then
    some { pool with buffer := pool.buffer ++ [handle] }
  else none

/-- A worker begins with a session: it enters it in the table first, so that a forced disconnect
reaches it from then on, and answers CONNECT unless it is too late for that. -/
def takeUp (pool : WorkerPool) (handle : Handle) : WorkerPool :=
  if pool.board.stopping then { pool with board := pool.board.finish handle }
  else
    let registered := pool.board.register handle
    match registered.activate handle with
    | (.ok (), board) =>
      { pool with board := board, serving := pool.serving ++ [handle] }
    | (.error _, board) => { pool with board := board.finish handle }

/-- A free worker takes the session that waits longest; none when there is no such worker or
session. -/
def take? (pool : WorkerPool) : Option WorkerPool :=
  match pool.buffer with
  | [] => none
  | handle :: rest =>
    if pool.serving.length < pool.workers then
      some ({ pool with buffer := rest }.takeUp handle)
    else none

/-- Serves one session as far as its client lets it, and tears it down when it is over. -/
def advance (pool : WorkerPool) (handle : Handle) : WorkerPool :=
  match pool.board.serve handle with
  | (.waiting, board) => { pool with board := board }
  | (.over _, board) =>
    { pool with
      board := board.passNotices handle |>.finish handle
      serving := pool.serving.filter (· ≠ handle) }

/-- Serves the sessions that have a worker. -/
def advanceAll (pool : WorkerPool) : WorkerPool :=
  let advanced := pool.serving.foldl advance pool
  { advanced with board := advanced.board.passAllNotices }

/-- Lets free workers take waiting sessions and serve them, at most `rounds` times. -/
def takeRounds (pool : WorkerPool) : Nat → WorkerPool
  | 0 => pool
  | rounds + 1 =>
    match pool.take? with
    | none => pool
    | some taken => takeRounds taken.advanceAll rounds

/-- Lets everything happen that can happen without the clients. -/
def settle (pool : WorkerPool) : WorkerPool :=
  let advanced := pool.advanceAll
  advanced.takeRounds (advanced.buffer.length + 1)

/-- Closes the sessions in the table. -/
def disconnectAll (pool : WorkerPool) : Nat × WorkerPool :=
  let (count, board) := pool.board.disconnectAll
  (count, { pool with board := board })

/-- Stops taking sessions up, closes those being served and tears all of them down. -/
def shutdown (pool : WorkerPool) : WorkerPool :=
  let (_, closed) := { pool with board := pool.board.stop }.disconnectAll
  closed.settle

end WorkerPool

end WatchedStore.Session
