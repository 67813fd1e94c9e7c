import WatchedStore.Wire.Request

/-! # The request channel of a session

The bytes of a client arrive in chunks of any size, with reads in between that bring nothing. A
request is put together from as many reads as it takes, and no read goes beyond the request. A
payload that does not decode is told apart from a lost frame: after the former the next frame starts
at a known place, after an unknown opcode it does not.
-/

namespace WatchedStore.Session

open WatchedStore.Wire

/-- What one read of the channel brings. -/
inductive Arrival
  /-- Some bytes. -/
  | chunk (bytes : Bytes)
  /-- Nothing yet: the read timed out or was interrupted. -/
  | idle
  /-- The client will send no more. -/
  | ended
  /-- The channel failed. -/
  | broken (failure : IoFailure)
deriving DecidableEq, Repr

/-- How an attempt to read a number of bytes ends. -/
inductive Fill
  /-- All bytes are there. -/
  | full (bytes : Bytes) (rest : List Arrival)
  /-- The channel ended first, or the session is to stop. -/
  | closed
  | failed (failure : IoFailure)
  /-- More has to arrive. -/
  | waiting
deriving DecidableEq, Repr

/-- Puts bytes read earlier in front. -/
def Fill.prepend (bytes : Bytes) : Fill → Fill
  | full more rest => full (bytes ++ more) rest
  | fill => fill

/-- Reads a number of bytes. Before each read the session looks whether it is to stop. -/
def fill (stopped : Bool) : Nat → List Arrival → Fill
  | 0, arrivals => .full [] arrivals
  | _ + 1, [] => if stopped then .closed else .waiting
  | wanted + 1, arrival :: rest =>
    if stopped then .closed
    else
      match arrival with
      | .chunk [] => .closed
      | .chunk (byte :: bytes) =>
        if bytes.length ≤ wanted then
          (fill stopped (wanted - bytes.length) rest).prepend (byte :: bytes)
        else
          .full ((byte :: bytes).take (wanted + 1))
            (.chunk ((byte :: bytes).drop (wanted + 1)) :: rest)
      | .idle => fill stopped (wanted + 1) rest
      | .ended => .closed
      | .broken failure => .failed failure

/-- What the channel brings next. -/
inductive Incoming
  | request (request : Request) (rest : List Arrival)
  /-- A frame whose payload does not decode. -/
  | malformed (opcode : Opcode) (rest : List Arrival)
  | closed
  | failed (error : Error)
  | waiting
deriving DecidableEq, Repr

/-- Reads the next frame. -/
def nextRequest (stopped : Bool) (arrivals : List Arrival) : Incoming :=
  match fill stopped 1 arrivals with
  | .closed => .closed
  | .failed failure => .failed (.io failure)
  | .waiting => .waiting
  | .full first arrivals =>
    match decodeOpcode (first.headD 0) with
    | .error error => .failed error
    | .ok opcode =>
      match fill stopped opcode.payloadLength arrivals with
      | .closed => .closed
      | .failed failure => .failed (.io failure)
      | .waiting => .waiting
      | .full payload rest =>
        match decodeRequest opcode payload with
        | .ok request => .request request rest
        | .error _ => .malformed opcode rest

/-- How many bytes are there to be read. -/
def pendingSize : List Arrival → Nat
  | [] => 0
  | .chunk bytes :: rest => bytes.length + pendingSize rest
  | _ :: rest => pendingSize rest

/-- Filling a buffer takes its bytes off the channel. -/
theorem pendingSize_of_fill {stopped : Bool} {wanted : Nat} {arrivals rest : List Arrival}
    {bytes : Bytes} (filled : fill stopped wanted arrivals = .full bytes rest) :
    pendingSize arrivals = wanted + pendingSize rest := by
  induction arrivals generalizing wanted bytes with
  | nil =>
    cases wanted with
    | zero => simp only [fill, Fill.full.injEq] at filled; simp [← filled.2]
    | succ n => simp only [fill] at filled; split at filled <;> cases filled
  | cons arrival later ih =>
    cases wanted with
    | zero => simp only [fill, Fill.full.injEq] at filled; simp [← filled.2]
    | succ wanted =>
      simp only [fill] at filled
      split at filled
      · cases filled
      · cases arrival with
        | idle => exact ih filled
        | ended => cases filled
        | broken failure => cases filled
        | chunk block =>
          cases block with
          | nil => cases filled
          | cons byte block =>
            simp only at filled
            split at filled
            · next short =>
              cases inner : fill stopped (wanted - block.length) later with
              | full more tail =>
                simp only [inner, Fill.prepend, Fill.full.injEq] at filled
                obtain ⟨-, rfl⟩ := filled
                have := ih inner
                simp only [pendingSize, List.length_cons]
                omega
              | closed => simp [inner, Fill.prepend] at filled
              | failed failure => simp [inner, Fill.prepend] at filled
              | waiting => simp [inner, Fill.prepend] at filled
            · next long =>
              simp only [Fill.full.injEq] at filled
              simp only [pendingSize, ← filled.2, List.length_drop, List.length_cons]
              omega

/-- Every frame takes at least its opcode off the channel. -/
theorem pendingSize_of_request {stopped : Bool} {arrivals rest : List Arrival} {request : Request}
    (next : nextRequest stopped arrivals = .request request rest) :
    pendingSize rest < pendingSize arrivals := by
  unfold nextRequest at next
  split at next
  · cases next
  · cases next
  · cases next
  · next first afterOpcode head =>
    have taken := pendingSize_of_fill head
    split at next
    · cases next
    · split at next
      · cases next
      · cases next
      · cases next
      · next payload afterPayload body =>
        have := pendingSize_of_fill body
        split at next
        · simp only [Incoming.request.injEq] at next
          rw [← next.2]
          omega
        · cases next

/-- The same for a frame whose payload does not decode. -/
theorem pendingSize_of_malformed {stopped : Bool} {arrivals rest : List Arrival} {opcode : Opcode}
    (next : nextRequest stopped arrivals = .malformed opcode rest) :
    pendingSize rest < pendingSize arrivals := by
  unfold nextRequest at next
  split at next
  · cases next
  · cases next
  · cases next
  · next first afterOpcode head =>
    have taken := pendingSize_of_fill head
    split at next
    · cases next
    · split at next
      · cases next
      · cases next
      · cases next
      · next payload afterPayload body =>
        have := pendingSize_of_fill body
        split at next
        · cases next
        · simp only [Incoming.malformed.injEq] at next
          rw [← next.2]
          omega

end WatchedStore.Session
