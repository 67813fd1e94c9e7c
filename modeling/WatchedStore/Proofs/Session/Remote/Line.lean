import WatchedStore.Proofs.Session.Remote.Requests
import WatchedStore.Proofs.Session.Workshop

/-! # Who joins the line and who leaves it

A client that dials gets a session at the end of the line, or nothing is left of it but an identity
that nobody has. A session that is torn down leaves the line and everybody else in place.
-/

namespace WatchedStore.Session

open WatchedStore.Wire

/-- The record of a session that is torn down. -/
def Record.ended (session : Record) : Record :=
  { session with phase := .disconnected, notifying := false }

namespace Rendezvous

variable {server : Rendezvous} {owed : Handle → Bytes} {gone ended : Handle → Prop}
  {handle : Handle} {session : Record}

section Parting

variable (attended : server.Attended owed gone)
  (present : server.board.session? handle = some session)
  (serving : handle ∈ server.pool.serving)

include attended present serving

/-- Tearing down a session that is served releases its subscriptions and gives its mailbox up. -/
theorem board_finished :
    (server.finished handle).board =
      (((server.board.seize handle).withdraw session.id).release session.id).abandon handle := by
  have standing := attended.standing present
  have unclosed : session.phase ≠ .disconnected := by
    rw [(standing.serving serving).1]
    decide
  have finished := Switchboard.finish_of_open present unclosed
  rw [standing.slot] at finished
  exact finished

theorem touches_finished :
    server.Touches (server.finished handle) handle session session.ended := by
  have board := board_finished attended present serving
  refine ⟨by rw [board]; rfl, by rw [board]; rfl, present, ?_, rfl, ?_, ?_, fun _ _ => Iff.rfl⟩
  · rw [board]
    exact Switchboard.session?_edit_self present _
  · intro other apart
    rw [board]
    exact Switchboard.session?_edit_of_ne apart _
  · intro other apart
    change other ∈ server.pool.serving.filter (· ≠ handle) ↔ _
    simp [apart]

omit present in
theorem notMem_roll_finished : handle ∉ (server.finished handle).roll := by
  change handle ∉ server.pool.serving.filter (· ≠ handle) ++ server.waiting
  simp [attended.apart serving]

theorem Attended.finish (ends : ended handle)
    (others : ∀ other ≠ handle, (ended other ↔ gone other)) :
    (server.finished handle).Attended owed ended := by
  have standing := attended.standing present
  have apart := attended.apart serving
  have absent := notMem_roll_finished attended serving
  have touches := touches_finished attended present serving
  have once : (server.finished handle).roll.Nodup :=
    attended.once.sublist (List.filter_sublist.append_right server.waiting)
  refine touches.attended attended once (fun _ _ => rfl) others (fun waits => absurd waits apart) ?_
  constructor
  case enrolled => exact iff_of_false absent (not_not_intro ends)
  case serving => exact fun member => absurd (List.mem_append_left _ member) absent
  case waiting => exact fun waits => absurd waits apart
  case quiet => exact fun member => absurd member absent
  case replies => exact standing.replies
  case slot => exact standing.slot
  case older => exact touches.fresh ▸ standing.older

end Parting

section Joining

/-- A session more, at the end of the line. -/
def joined (server : Rendezvous) : Rendezvous :=
  let board := server.board
  let added := server.withBoard { board with
    hub := (board.hub.openMailbox server.queue).2
    sessions := board.sessions ++
      [⟨board.nextId, .connecting, board.hub.boxes.length, false, [], [], []⟩]
    nextId := board.nextId + 1 }
  { added with held := server.held ++ [board.sessions.length] }

/-- An identity that nobody has. -/
def skipped (server : Rendezvous) : Rendezvous :=
  server.withBoard { server.board with nextId := server.board.nextId + 1 }

/-- A client that dials gets a session at the end of the line, or none. -/
theorem dial_cases (server : Rendezvous) (host : Host) (address : String)
    (channels : ConnectRequest) :
    server.dial host address channels = (.ok server.board.sessions.length, server.joined.settle) ∨
      ∃ error, server.dial host address channels = (.error error, server) ∨
        server.dial host address channels = (.error error, server.settle) ∨
        server.dial host address channels = (.error error, server.skipped.settle) := by
  unfold dial
  cases host.dialAt address with
  | some failure => exact .inr ⟨_, .inl rfl⟩
  | none =>
    cases encodeConnect channels with
    | error error => exact .inr ⟨_, .inl rfl⟩
    | ok frame =>
      dsimp only
      unfold handshake
      cases ((ByteSource.ofBytes frame).readExact connectSize).1 with
      | error failure => exact .inr ⟨_, .inl rfl⟩
      | ok bytes =>
        dsimp only
        unfold openFrame
        cases decodeConnect bytes with
        | error error => exact .inr ⟨_, .inr (.inl rfl)⟩
        | ok named =>
          simp only [Switchboard.allocate, Switchboard.openSession]
          cases Switchboard.openChannels host server.board.nextId named with
          | error error => exact .inr ⟨_, .inr (.inr rfl)⟩
          | ok opened => exact .inl rfl

/-- The record of a session that nobody has taken up. -/
def newcomer (server : Rendezvous) : Record :=
  ⟨server.board.nextId, .connecting, server.hub.boxes.length, false, [], [], []⟩

theorem session?_joined (server : Rendezvous) (place : Handle) :
    server.joined.board.session? place =
      if place = server.board.sessions.length then some server.newcomer
      else server.board.session? place := by
  change (server.board.sessions ++ [server.newcomer])[place]? = _
  rw [List.getElem?_append]
  rcases Nat.lt_trichotomy place server.board.sessions.length with below | same | above
  · rw [if_pos below, if_neg (Nat.ne_of_lt below)]
    rfl
  · simp [same]
  · rw [if_neg (Nat.not_lt_of_lt above), if_neg (Nat.ne_of_gt above)]
    have none : server.board.session? place = none :=
      List.getElem?_eq_none (Nat.le_of_lt above)
    rw [none]
    exact List.getElem?_eq_none (by simp only [List.length_singleton]; omega)

theorem waiting_joined (server : Rendezvous) :
    server.joined.waiting = server.waiting ++ [server.board.sessions.length] :=
  (List.append_assoc ..).symm

theorem roll_joined (server : Rendezvous) :
    server.joined.roll = server.roll ++ [server.board.sessions.length] := by
  rw [roll, waiting_joined, roll, List.append_assoc]
  rfl

theorem Attended.notMem_roll (attended : server.Attended owed gone)
    (beyond : server.board.sessions.length ≤ handle) : handle ∉ server.roll := by
  intro enrolled
  obtain ⟨session, present⟩ := attended.known enrolled
  have none : server.board.session? handle = none := List.getElem?_eq_none beyond
  cases none.symm.trans present

/-- A client joins the end of the line. -/
theorem Attended.join (attended : server.Attended owed gone)
    (boxes : server.hub.boxes.length = server.board.sessions.length)
    (stays : ¬ gone server.board.sessions.length)
    (promised : owed server.board.sessions.length = welcome) :
    server.joined.Attended owed gone := by
  have absent := attended.notMem_roll (Nat.le_refl _)
  constructor
  case running => exact attended.running
  case once =>
    rw [roll_joined]
    exact attended.once.append (List.nodup_singleton _) (by simpa using absent)
  case known =>
    intro place enrolled
    rw [session?_joined]
    split
    · exact ⟨_, rfl⟩
    · next apart =>
      rw [roll_joined, List.mem_append, List.mem_singleton, or_iff_left apart] at enrolled
      exact attended.known enrolled
  case promised =>
    intro place waits
    rw [waiting_joined, List.mem_append, List.mem_singleton] at waits
    rcases waits with waits | rfl
    · exact attended.promised waits
    · exact promised
  case standing =>
    intro place record there
    rw [session?_joined] at there
    split at there
    · next same =>
      cases there
      have waits : place ∈ server.joined.waiting := by
        rw [waiting_joined, same]
        exact List.mem_append_right _ (List.mem_singleton_self _)
      refine ⟨iff_of_true (List.mem_append_right _ waits) (same ▸ stays), ?_, fun _ => rfl,
        fun _ => rfl, (if_pos waits).symm, boxes.trans same.symm, Nat.lt_succ_self _⟩
      exact fun serving => absurd (List.mem_append_left _ (same ▸ serving)) absent
    · next apart =>
      have standing := attended.standing there
      have enrolled : place ∈ server.joined.roll ↔ place ∈ server.roll := by
        rw [roll_joined, List.mem_append, List.mem_singleton, or_iff_left apart]
      have waiting : place ∈ server.joined.waiting ↔ place ∈ server.waiting := by
        rw [waiting_joined, List.mem_append, List.mem_singleton, or_iff_left apart]
      refine ⟨enrolled.trans standing.enrolled, standing.serving,
        fun waits => standing.waiting (waiting.mp waits),
        fun member => standing.quiet (enrolled.mp member), ?_, standing.slot,
        Nat.lt_succ_of_lt standing.older⟩
      rw [standing.replies, if_congr waiting rfl rfl]
  case ascending =>
    intro first second one two here there before
    rw [session?_joined] at here there
    split at here
    · next last =>
      -- Nobody is behind the newcomer.
      have behind : server.board.sessions.length < second := last ▸ before
      rw [if_neg (Nat.ne_of_gt behind)] at there
      exact absurd (List.getElem?_eq_some_iff.mp there).1 (Nat.lt_asymm behind)
    · split at there
      · cases there
        exact (attended.standing here).older
      · exact attended.ascending here there before

/-- An identity is used up. -/
theorem Attended.skip (attended : server.Attended owed gone) :
    server.skipped.Attended owed gone where
  running := attended.running
  once := attended.once
  known := attended.known
  promised := attended.promised
  standing := fun present =>
    let standing := attended.standing present
    { standing with older := Nat.lt_succ_of_lt standing.older }
  ascending := attended.ascending

end Joining

end Rendezvous

end WatchedStore.Session
