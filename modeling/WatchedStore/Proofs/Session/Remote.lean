import WatchedStore.Proofs.Session.Notifications
import WatchedStore.Proofs.Session.Remote.Calls

/-! # A remote client is a local subscriber

Whatever clients do over the wire, a hub on which the same calls are made directly, with local sinks
under the identities of their sessions, answers the same and ends up with the same store. What a
client is notified of is what its local counterpart is handed, with one exception that lies in the
format of the frames: an update to the marker of deletions is read as a deletion.
-/

namespace WatchedStore.Session

open WatchedStore.Wire

/-- Who listens serves nobody yet. -/
theorem Rendezvous.of_listen {host : Host} {settings : Settings} {hub : Hub} {server : Rendezvous}
    (listening : Rendezvous.listen host settings hub = .ok server) :
    server.board = Switchboard.ofHub hub ∧ server.roll = [] := by
  unfold Rendezvous.listen at listening
  split at listening
  · cases listening
  · split at listening
    · cases listening
    · dsimp only at listening
      split at listening
      · cases listening
      · next pool started =>
        cases listening
        unfold WorkerPool.start? at started
        split at started
        · cases started
          exact ⟨rfl, rfl⟩
        · cases started

namespace Tandem

/-- Both sides start with the same. -/
theorem matches_start {host : Host} {settings : Settings} {limit : Nat} {server : Rendezvous}
    (listening : Rendezvous.listen host settings (Hub.empty limit) = .ok server) :
    (start server).Matches (start server).owes := by
  obtain ⟨board, roll⟩ := Rendezvous.of_listen listening
  obtain ⟨serving, waiting⟩ := List.append_eq_nil_iff.mp roll
  have absent : ∀ {handle : Handle} {session : Record},
      server.board.session? handle ≠ some session := by
    intro handle session
    rw [board]
    rintro ⟨⟩
  have hub : server.hub = Hub.empty limit := by
    rw [Rendezvous.hub, board]
    rfl
  constructor
  case attended =>
    refine ⟨by rw [start, board]; rfl, by rw [start, roll]; exact List.nodup_nil, ?_, ?_, ?_, ?_⟩
    · intro handle enrolled
      rw [start, roll] at enrolled
      cases enrolled
    · intro handle waits
      rw [start, waiting] at waits
      cases waits
    · exact fun present => absurd present absent
    · exact fun present _ _ => absurd present absent
  case connected => rintro handle ⟨⟩
  case inStep =>
    have seats : server.seats = fun _ => none := by
      funext slot
      rw [Rendezvous.seats, roll]
      rfl
    change InStep server.seats _ ⟨server.hub, []⟩ ⟨server.hub, []⟩
    rw [hub, seats]
    exact .ofEmpty limit
  case boxes =>
    rw [start, hub, board]
    rfl
  case mirrors =>
    rw [start, hub, board]
    rfl
  case fresh => exact fun _ => ⟨rfl, rfl, rfl⟩

variable {tandem : Tandem} {handle : Handle} {session : Record}

/-- Every step keeps what both sides have in common. -/
theorem Matches.step (same : tandem.Matches tandem.owes) (event : TandemEvent) :
    (tandem.step event).Matches (tandem.step event).owes := by
  cases event with
  | connect host address channels => exact same.connect host address channels
  | acknowledge handle => exact same.acknowledge handle
  | write pairs => exact same.write pairs
  | delete keys => exact same.delete keys
  | settle => exact same.settle.1
  | hear handle most => exact same.hear handle most
  | receive handle most =>
    have owes : (tandem.step (.receive handle most)).owes = tandem.owes := by
      unfold Tandem.step
      dsimp only
      split <;> rfl
    rw [owes]
    exact same.receive handle most
  | disconnect handle =>
    unfold Tandem.step
    dsimp only
    cases client : tandem.session? handle with
    | none => exact same
    | some session =>
      obtain ⟨remote, left, later⟩ := same.leave client
      rw [left]
      exact later
  | subscribe handle key =>
    unfold Tandem.step
    dsimp only
    cases client : tandem.session? handle with
    | none => exact same
    | some session =>
      by_cases sendable : IsSendable key
      · obtain ⟨remote, called, later⟩ := same.subscribe client sendable
        simp only [sendable, ↓reduceIte, Tandem.call, called]
        exact later
      · obtain ⟨fault, refused, -⟩ :=
          Rendezvous.call?_of_not_isSendable sendable tandem.remote handle
        simp only [sendable, ↓reduceIte, Tandem.call, refused]
        exact same
  | unsubscribe handle key =>
    unfold Tandem.step
    dsimp only
    cases client : tandem.session? handle with
    | none => exact same
    | some session =>
      by_cases sendable : IsSendable key
      · obtain ⟨remote, called, later⟩ := same.unsubscribe client sendable
        simp only [sendable, ↓reduceIte, Tandem.call, called]
        exact later
      · obtain ⟨fault, -, refused⟩ :=
          Rendezvous.call?_of_not_isSendable sendable tandem.remote handle
        simp only [sendable, ↓reduceIte, Tandem.call, refused]
        exact same

theorem Matches.after (same : tandem.Matches tandem.owes) (events : List TandemEvent) :
    (tandem.after events).Matches (tandem.after events).owes := by
  induction events generalizing tandem with
  | nil => exact same
  | cons event rest ih => exact ih (same.step event)

/-- What a remote client cannot tell from a local subscription. -/
structure Indistinct (tandem : Tandem) : Prop where
  /-- Both sides hold the same values and subscribers, and so answer the same from here on. -/
  store : tandem.remote.hub.store = tandem.direct.hub.store
  /-- Each session has an identity of its own. -/
  identities : ∀ {first second one two}, tandem.session? first = some one →
    tandem.session? second = some two → first ≠ second → one.id ≠ two.id
  /-- A subscription to a key that can be sent is answered with the status of the local outcome. -/
  subscribes : ∀ {handle session key}, tandem.session? handle = some session → IsSendable key →
    (tandem.remote.call? handle (.subscribe key)).map Prod.fst =
      some (.ok (.ofSubscribe (tandem.direct.hub.subscribe key session.sink).1))
  unsubscribes : ∀ {handle session key}, tandem.session? handle = some session → IsSendable key →
    (tandem.remote.call? handle (.unsubscribe key)).map Prod.fst =
      some (.ok (.ofUnsubscribe (tandem.direct.hub.unsubscribe key session.id).1))
  /-- Any other key fails as a matter of the wire format, and nothing has happened. -/
  refuses : ∀ {key}, ¬ IsSendable key → ∀ handle, ∃ fault,
    tandem.remote.call? handle (.subscribe key) =
        some (.error (.protocol fault), tandem.remote) ∧
      tandem.remote.call? handle (.unsubscribe key) =
        some (.error (.protocol fault), tandem.remote)
  /-- Disconnecting is answered; what it does to the store the next state says. -/
  leaves : ∀ {handle session}, tandem.session? handle = some session →
    (tandem.remote.leave? handle).map Prod.fst = some (.ok ())
  /-- Every key of the store can be sent. -/
  reaches : ∀ {key node}, tandem.remote.hub.store.node? key = some node → IsSendable key
  /-- While its queue was never found full, a client is sent the frames of what its local
  counterpart is handed, as soon as the server has settled. In whatever chunks these come, it reads
  from them the same notifications, an update to the marker of deletions as a deletion. -/
  notices : ∀ {handle session}, tandem.session? handle = some session →
    NeverFull tandem.log session.id → NeverFull tandem.direct.warnings session.id →
    let sent := tandem.heard handle ++ tandem.remote.settle.board.unheard handle
    let notes := tandem.handed handle session
    sent = notes.flatMap Notice.frame ∧
      ∀ arrivals, Delivers arrivals sent → ∀ most, notes.length ≤ most →
        (Feed.ofArrivals arrivals).take most = (notes.map Notice.asRead, false)

theorem Matches.notices (same : tandem.Matches tandem.owes)
    (client : tandem.session? handle = some session) (never : NeverFull tandem.log session.id)
    (neverThere : NeverFull tandem.direct.warnings session.id) :
    (∀ note ∈ tandem.handed handle session, note.IsPlain) ∧
      tandem.heard handle ++ tandem.remote.settle.board.unheard handle =
        (tandem.handed handle session).flatMap Notice.frame := by
  obtain ⟨connected, present⟩ := session?_eq_some_iff.mp client
  obtain ⟨settled, ids, passed⟩ := same.settle
  have serving := settled.connected connected
  have slot : session.slot = handle := (same.attended.standing present).slot
  obtain ⟨later, there, id⟩ := Option.map_eq_some_iff.mp
    ((ids handle).trans (congrArg (Option.map Record.id) present))
  have standing := settled.attended.standing there
  obtain ⟨box, mirror, here, mirrored, -, -, agrees⟩ := settled.inStep.queues
    (Rendezvous.seats_eq_some_iff.mpr ⟨List.mem_append_left _ serving, later, there, id⟩)
  obtain ⟨plain, frames⟩ := agrees never neverThere
  have empty : box.queued = [] :=
    passed handle later there (standing.serving serving).2 box (standing.slot.symm ▸ here)
  have handed : tandem.handed handle session = tandem.received handle ++ mirror.queued := by
    rw [Tandem.handed, slot]
    exact congrArg (fun found => tandem.received handle ++
      (Option.map Mailbox.queued found).getD []) mirrored
  rw [empty, List.flatMap_nil, List.append_nil] at frames
  rw [handed]
  exact ⟨plain, frames⟩

/-- After every run, remote clients are indistinguishable from local subscribers. -/
theorem indistinct_after_run {host : Host} {settings : Settings} {limit : Nat} {server : Rendezvous}
    (listening : Rendezvous.listen host settings (Hub.empty limit) = .ok server)
    (events : List TandemEvent) : ((start server).after events).Indistinct := by
  have same := (matches_start listening).after events
  generalize (start server).after events = tandem at same ⊢
  constructor
  case store => exact same.inStep.store.symm
  case identities =>
    intro first second one two here there apart
    have here := (session?_eq_some_iff.mp here).2
    have there := (session?_eq_some_iff.mp there).2
    rcases Nat.lt_or_gt_of_ne apart with before | behind
    · exact Nat.ne_of_lt (same.attended.ascending here there before)
    · exact Nat.ne_of_gt (same.attended.ascending there here behind)
  case subscribes =>
    intro handle session key client sendable
    obtain ⟨remote, called, -⟩ := same.subscribe client sendable
    rw [called]
    rfl
  case unsubscribes =>
    intro handle session key client sendable
    obtain ⟨remote, called, -⟩ := same.unsubscribe client sendable
    rw [called]
    rfl
  case refuses =>
    exact fun unsendable handle =>
      Rendezvous.call?_of_not_isSendable unsendable tandem.remote handle
  case leaves =>
    intro handle session client
    obtain ⟨remote, left, -⟩ := same.leave client
    rw [left]
    rfl
  case reaches => exact fun found => isSendable_of_clean (same.inStep.clean found)
  case notices =>
    intro handle session client never neverThere
    obtain ⟨plain, frames⟩ := same.notices client never neverThere
    refine ⟨frames, fun arrivals delivers most enough => ?_⟩
    rw [frames] at delivers
    exact Feed.take_frames plain delivers enough

/-- A server that listens at the standard address of a machine that reaches itself. -/
def ownServer : Rendezvous :=
  ⟨WorkerPool.start (Switchboard.ofHub (Hub.empty 4)) 8 8, 256, [], false⟩

/-- A client that is connected follows one key, which gets another value. -/
def oneClient (value : String) : List TandemEvent :=
  let host := Host.loopback [⟨.v4 127 0 0 1, 7878⟩]
  let address := "127.0.0.1:7878"
  [.connect host address ⟨address, address, address⟩, .acknowledge 0, .write [("a", "1")],
    .subscribe 0 "a", .write [("a", value)], .settle, .hear 0 noticeSize, .receive 0 1]

/-- The client is connected, and reads what its counterpart is handed. -/
theorem indistinct_after_run_of_one_client :
    let tandem := (start ownServer).after (oneClient "2")
    tandem.stage 0 = .connected ∧ tandem.received 0 = [.updated "a" "2"] ∧
      (Feed.ofArrivals [.chunk (tandem.heard 0)]).take 1 = ([.updated "a" "2"], false) ∧
      tandem.Indistinct := by
  have listening : Rendezvous.listen (.loopback [⟨.v4 127 0 0 1, 7878⟩]) .standard (.empty 4) =
      .ok ownServer := by decide +kernel
  refine ⟨?_, ?_, ?_, indistinct_after_run listening _⟩
  · decide +kernel
  · decide +kernel
  · decide +kernel

/-- An update to the marker of deletions is no update to the client that reads it. -/
theorem deletion_read_for_update :
    let tandem := (start ownServer).after (oneClient "DELETED")
    tandem.stage 0 = .connected ∧ tandem.log = [] ∧ tandem.direct.warnings = [] ∧
      tandem.received 0 = [.updated "a" "DELETED"] ∧
      (Feed.ofArrivals [.chunk (tandem.heard 0)]).take 1 = ([.deleted "a"], false) := by
  decide +kernel

end Tandem

end WatchedStore.Session
