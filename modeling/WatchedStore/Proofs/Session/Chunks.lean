import WatchedStore.Session.Channel

/-! # Bytes in whatever chunks

A channel may bring the same bytes in any chunks, with reads in between that bring nothing. Filling
a buffer from it and reading the next frame see only the bytes. Failing channels are not the subject
here; the reader is not asked to stop.
-/

namespace WatchedStore.Session

open WatchedStore.Wire

/-- Reads of a channel that together bring some bytes: chunks that are not empty, and any number of
reads that bring nothing yet. -/
inductive Delivers : List Arrival → Bytes → Prop
  | nil : Delivers [] []
  | idle {arrivals : List Arrival} {bytes : Bytes} (later : Delivers arrivals bytes) :
    Delivers (.idle :: arrivals) bytes
  | chunk {arrivals : List Arrival} {bytes : Bytes} (byte : UInt8) (block : Bytes)
    (later : Delivers arrivals bytes) :
    Delivers (.chunk (byte :: block) :: arrivals) (byte :: block ++ bytes)

variable {arrivals : List Arrival} {bytes : Bytes}

/-- Enough bytes fill the buffer, and the others are still to be read. -/
theorem fill_of_le (delivers : Delivers arrivals bytes) {wanted : Nat}
    (enough : wanted ≤ bytes.length) (ending : List Arrival) :
    ∃ unread, Delivers unread (bytes.drop wanted) ∧
      fill false wanted (arrivals ++ ending) = .full (bytes.take wanted) (unread ++ ending) := by
  induction delivers generalizing wanted with
  | nil =>
    obtain rfl := Nat.le_zero.mp enough
    exact ⟨[], .nil, by rw [fill]; rfl⟩
  | @idle arrivals bytes later ih =>
    cases wanted with
    | zero => exact ⟨.idle :: arrivals, .idle later, by rw [fill]; rfl⟩
    | succ wanted =>
      obtain ⟨unread, left, filled⟩ := ih enough
      exact ⟨unread, left, by simpa [fill] using filled⟩
  | @chunk arrivals bytes byte block later ih =>
    cases wanted with
    | zero => exact ⟨.chunk (byte :: block) :: arrivals, .chunk byte block later, by rw [fill]; rfl⟩
    | succ wanted =>
      by_cases short : block.length ≤ wanted
      · have enoughLater : wanted - block.length ≤ bytes.length := by
          simp only [List.length_append, List.length_cons] at enough
          omega
        obtain ⟨unread, left, filled⟩ := ih enoughLater
        refine ⟨unread, ?_, ?_⟩
        · rw [List.cons_append, List.drop_succ_cons, List.drop_append,
            List.drop_eq_nil_of_le short]
          exact left
        · rw [List.cons_append, List.cons_append, List.take_succ_cons, List.take_append,
            List.take_of_length_le short]
          simp [fill, short, filled, Fill.prepend]
      · have long : wanted < block.length := Nat.lt_of_not_le short
        obtain ⟨next, more, split⟩ : ∃ next more, block.drop wanted = next :: more :=
          List.exists_cons_of_length_pos (by rw [List.length_drop]; omega)
        refine ⟨.chunk (next :: more) :: arrivals, ?_, ?_⟩
        · rw [List.cons_append, List.drop_succ_cons,
            List.drop_append_of_le_length (Nat.le_of_lt long), split]
          exact .chunk next more later
        · rw [List.cons_append, List.cons_append, List.take_succ_cons,
            List.take_append_of_le_length (Nat.le_of_lt long)]
          simp [fill, short, split]

/-- Too few bytes before the end of the channel close it. -/
theorem fill_of_lt (delivers : Delivers arrivals bytes) {wanted : Nat}
    (few : bytes.length < wanted) : fill false wanted (arrivals ++ [.ended]) = .closed := by
  induction delivers generalizing wanted with
  | nil =>
    obtain ⟨wanted, rfl⟩ := Nat.exists_eq_add_one_of_ne_zero (Nat.ne_of_gt few)
    rfl
  | idle later ih =>
    obtain ⟨wanted, rfl⟩ := Nat.exists_eq_add_one_of_ne_zero (Nat.ne_of_gt (Nat.zero_lt_of_lt few))
    simpa [fill] using ih few
  | @chunk arrivals bytes byte block later ih =>
    obtain ⟨wanted, rfl⟩ := Nat.exists_eq_add_one_of_ne_zero (Nat.ne_of_gt (Nat.zero_lt_of_lt few))
    simp only [List.length_append, List.length_cons] at few
    have short : block.length ≤ wanted := by omega
    have fewLater : bytes.length < wanted - block.length := by omega
    simp [fill, short, ih fewLater, Fill.prepend]

section Frames

variable {first : UInt8} {rest : Bytes}

private theorem fill_opcode (delivers : Delivers arrivals (first :: rest)) (ending : List Arrival) :
    ∃ unread, Delivers unread rest ∧
      fill false 1 (arrivals ++ ending) = .full [first] (unread ++ ending) :=
  fill_of_le delivers (Nat.succ_le_succ (Nat.zero_le _)) ending

theorem nextRequest_of_nil (delivers : Delivers arrivals []) :
    nextRequest false (arrivals ++ [.ended]) = .closed := by
  rw [nextRequest, fill_of_lt delivers Nat.zero_lt_one]

/-- An unknown opcode is reported whatever follows. -/
theorem nextRequest_of_unknown (delivers : Delivers arrivals (first :: rest))
    (unknown : Opcode.ofByte? first = none) (ending : List Arrival) :
    nextRequest false (arrivals ++ ending) = .failed (.protocol (.unknownOpcode first)) := by
  obtain ⟨unread, -, filled⟩ := fill_opcode delivers ending
  simp only [nextRequest, filled, List.headD_cons, decodeOpcode, unknown]

/-- A frame that is cut off closes the channel. -/
theorem nextRequest_of_lt (delivers : Delivers arrivals (first :: rest)) {opcode : Opcode}
    (known : Opcode.ofByte? first = some opcode) (few : rest.length < opcode.payloadLength) :
    nextRequest false (arrivals ++ [.ended]) = .closed := by
  obtain ⟨unread, left, filled⟩ := fill_opcode delivers [.ended]
  simp only [nextRequest, filled, List.headD_cons, decodeOpcode, known, fill_of_lt left few]

/-- A whole frame is a request or a malformed one, and the bytes behind it are still to be read. -/
theorem nextRequest_of_le (delivers : Delivers arrivals (first :: rest)) {opcode : Opcode}
    (known : Opcode.ofByte? first = some opcode) (enough : opcode.payloadLength ≤ rest.length)
    (ending : List Arrival) :
    ∃ unread, Delivers unread (rest.drop opcode.payloadLength) ∧
      nextRequest false (arrivals ++ ending) =
        match decodeRequest opcode (rest.take opcode.payloadLength) with
        | .ok request => .request request (unread ++ ending)
        | .error _ => .malformed opcode (unread ++ ending) := by
  obtain ⟨afterOpcode, left, filled⟩ := fill_opcode delivers ending
  obtain ⟨unread, behind, payload⟩ := fill_of_le left enough ending
  refine ⟨unread, behind, ?_⟩
  cases decoded : decodeRequest opcode (rest.take opcode.payloadLength) with
  | ok request =>
    simp only [nextRequest, filled, List.headD_cons, decodeOpcode, known, payload, decoded]
  | error error =>
    simp only [nextRequest, filled, List.headD_cons, decodeOpcode, known, payload, decoded]

end Frames

end WatchedStore.Session
