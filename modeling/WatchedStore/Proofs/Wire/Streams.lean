import WatchedStore.Proofs.Wire.Frames

/-! # Streams of requests

The opcode of a request tells how long its frame is, so requests that stand one behind the other are
told apart without anything between them. A stream that ends between two frames ends well, and one
that ends inside a frame, be it only behind its opcode, does not.
-/

namespace WatchedStore

namespace ByteSource

variable {α : Type} {read : ByteSource → Except Error (Option α) × ByteSource}

/-- What a reader finds in a stream when it is used until it finds nothing or fails, how that ends, and
what is left. -/
inductive Yields (read : ByteSource → Except Error (Option α) × ByteSource) :
    ByteSource → List α → Except Error Unit → ByteSource → Prop
  | nothing {source rest : ByteSource} (found : read source = (.ok none, rest)) :
      Yields read source [] (.ok ()) rest
  | failure {source rest : ByteSource} {error : Error} (found : read source = (.error error, rest)) :
      Yields read source [] (.error error) rest
  | item {source next rest : ByteSource} {item : α} {items : List α} {ending : Except Error Unit}
      (found : read source = (.ok (some item), next)) (later : Yields read next items ending rest) :
      Yields read source (item :: items) ending rest

/-- A bound that the reader does not come to makes no difference. -/
theorem Yields.readTimes_eq {source rest : ByteSource} {items : List α}
    {ending : Except Error Unit} (yields : Yields read source items ending rest) {bound : Nat}
    (enough : items.length < bound) : source.readTimes read bound = (items, ending, rest) := by
  induction yields generalizing bound with
  | nothing found =>
    obtain ⟨fewer, rfl⟩ := Nat.exists_eq_add_of_lt enough
    simp only [readTimes, found]
  | failure found =>
    obtain ⟨fewer, rfl⟩ := Nat.exists_eq_add_of_lt enough
    simp only [readTimes, found]
  | item found later ih =>
    rw [List.length_cons] at enough
    obtain ⟨fewer, rfl⟩ := Nat.exists_eq_add_of_lt enough
    simp only [readTimes, found]
    rw [ih (by omega)]

end ByteSource

namespace Wire

open ByteSource

variable {request : Request} {frame : Bytes}

/-- A request is read from the front of a stream, whatever comes behind its frame. -/
theorem readRequest_append (encoded : encodeRequest request = .ok frame) (rest : Bytes)
    (ending : Option IoFailure) :
    readRequest ⟨frame ++ rest, ending⟩ = (.ok (some request), ⟨rest, ending⟩) := by
  obtain ⟨payload, rfl, size, decoded⟩ := encodeRequest_eq_ok encoded
  have opcode : readExact ⟨request.opcode.byte :: (payload ++ rest), ending⟩ 1 =
      (.ok [request.opcode.byte], ⟨payload ++ rest, ending⟩) :=
    readExact_append [request.opcode.byte] (payload ++ rest) ending
  have filled : readExact ⟨payload ++ rest, ending⟩ request.opcode.payloadLength =
      (.ok payload, ⟨rest, ending⟩) := size ▸ readExact_append payload rest ending
  simp only [readRequest, List.cons_append, opcode, List.headD_cons, decodeOpcode,
    Opcode.ofByte?_byte, filled, decoded, Except.map]

/-- Where a stream ends before the first byte of a frame, there is nothing more to read. -/
theorem readRequest_nil : readRequest (ofBytes []) = (.ok none, ofBytes []) := rfl

/-- Where it ends behind the first byte of a frame and before its last, the reader fails. -/
theorem readRequest_of_short (encoded : encodeRequest request = .ok frame) {size : Nat}
    (begun : 0 < size) (short : size < frame.length) :
    readRequest (ofBytes (frame.take size)) = (.error (.io .shortRead), ofBytes []) := by
  obtain ⟨payload, rfl, length, -⟩ := encodeRequest_eq_ok encoded
  obtain ⟨size, rfl⟩ := Nat.exists_eq_add_of_lt begun
  rw [Nat.zero_add, List.take_succ_cons]
  rw [List.length_cons] at short
  have opcode : readExact (ofBytes (request.opcode.byte :: payload.take size)) 1 =
      (.ok [request.opcode.byte], ofBytes (payload.take size)) :=
    readExact_append [request.opcode.byte] (payload.take size) none
  have missing : readExact (ofBytes (payload.take size)) request.opcode.payloadLength =
      (.error .shortRead, ofBytes []) := by
    refine if_neg ?_
    rw [← length, ofBytes, List.length_take]
    omega
  simp only [readRequest, opcode, List.headD_cons, decodeOpcode, Opcode.ofByte?_byte, missing]

theorem length_pos_of_encodeRequest (encoded : encodeRequest request = .ok frame) :
    0 < frame.length := by
  obtain ⟨payload, rfl, -⟩ := encodeRequest_eq_ok encoded
  exact Nat.zero_lt_succ _

/-- What is read from the frames of requests, cut anywhere: the requests whose frames are whole. -/
theorem yields_of_cut {requests : List Request} {frames : List Bytes}
    (encoded : List.Forall₂ (fun request frame => encodeRequest request = .ok frame) requests frames)
    {cut : Nat} (inside : cut ≤ frames.flatten.length) :
    ∃ count ≤ cut,
      (∀ n < frames.length, n < count ↔ (frames.take (n + 1)).flatten.length ≤ cut) ∧
      ((∃ n, (frames.take n).flatten.length = cut) → (frames.take count).flatten.length = cut) ∧
      Yields readRequest (ofBytes (frames.flatten.take cut)) (requests.take count)
        (if (frames.take count).flatten.length = cut then .ok () else .error (.io .shortRead))
        (ofBytes []) := by
  induction encoded generalizing cut with
  | nil =>
    obtain rfl := Nat.le_zero.mp inside
    exact ⟨0, Nat.le_refl 0, nofun, fun _ => rfl, .nothing readRequest_nil⟩
  | @cons request frame requests frames first rest ih =>
    have nonempty := length_pos_of_encodeRequest first
    have reach : ∀ n, ((frame :: frames).take (n + 1)).flatten.length =
        frame.length + (frames.take n).flatten.length := by
      intro n
      rw [List.take_succ_cons, List.flatten_cons, List.length_append]
    by_cases whole : frame.length ≤ cut
    · obtain ⟨later, rfl⟩ := Nat.exists_eq_add_of_le whole
      rw [List.flatten_cons, List.length_append, Nat.add_le_add_iff_left] at inside
      obtain ⟨count, few, complete, between, yields⟩ := ih inside
      refine ⟨count + 1, by omega, ?_, ?_, ?_⟩
      · intro n small
        rw [reach, Nat.add_le_add_iff_left]
        cases n with
        | zero => simp
        | succ n =>
          rw [Nat.succ_lt_succ_iff]
          exact complete n (Nat.lt_of_succ_lt_succ small)
      · rintro ⟨n, reached⟩
        rw [reach, Nat.add_left_cancel_iff]
        cases n with
        | zero =>
          rw [List.take_zero, List.flatten_nil, List.length_nil] at reached
          omega
        | succ n =>
          rw [reach, Nat.add_left_cancel_iff] at reached
          exact between ⟨n, reached⟩
      · have front : (frame ++ frames.flatten).take (frame.length + later) =
            frame ++ frames.flatten.take later := List.take_length_add_append later
        rw [reach, List.flatten_cons, front, List.take_succ_cons]
        simp only [Nat.add_left_cancel_iff]
        exact .item (readRequest_append first _ none) yields
    · have short := Nat.lt_of_not_le whole
      refine ⟨0, Nat.zero_le _, ?_, ?_, ?_⟩
      · intro n _
        rw [reach]
        omega
      · rintro ⟨n, reached⟩
        cases n with
        | zero => exact reached
        | succ n =>
          rw [reach] at reached
          omega
      · have front : (frame :: frames).flatten.take cut = frame.take cut := by
          rw [List.flatten_cons, List.take_append_of_le_length (Nat.le_of_lt short)]
        rw [front, List.take_zero, List.take_zero, List.flatten_nil, List.length_nil]
        cases cut with
        | zero => exact .nothing readRequest_nil
        | succ size =>
          rw [if_neg (by omega)]
          exact .failure (readRequest_of_short first (Nat.zero_lt_succ size) short)

/-- From the frames of requests, one behind the other and cut anywhere, a reader that is used until it
finds nothing or fails reads exactly the requests whose frames are whole, in order. It then finds the
end of the stream if the cut is between two frames, and fails for an unexpected end if it is inside of
one. And from the frame of a request with anything behind it that request is read, and what is behind
the frame is left. -/
theorem requests_of_cut_stream {requests : List Request} {frames : List Bytes}
    (encoded : List.Forall₂ (fun request frame => encodeRequest request = .ok frame)
      requests frames) :
    (∀ cut ≤ frames.flatten.length, ∃ count ending,
      (∀ n < frames.length, n < count ↔ (frames.take (n + 1)).flatten.length ≤ cut) ∧
      Yields readRequest (ofBytes (frames.flatten.take cut)) (requests.take count) ending
        (ofBytes []) ∧
      readAll readRequest (ofBytes (frames.flatten.take cut)) =
        (requests.take count, ending, ofBytes []) ∧
      ((∃ n, (frames.take n).flatten.length = cut) → ending = .ok ()) ∧
      ((¬ ∃ n, (frames.take n).flatten.length = cut) →
        ∃ failure, ending = .error (.io failure) ∧ failure.kind = .unexpectedEnd)) ∧
    ∀ request frame, encodeRequest request = .ok frame → ∀ rest ending,
      readRequest ⟨frame ++ rest, ending⟩ = (.ok (some request), ⟨rest, ending⟩) := by
  refine ⟨fun cut inside => ?_, fun _ _ => readRequest_append⟩
  obtain ⟨count, few, complete, between, yields⟩ := yields_of_cut encoded inside
  have enough : (requests.take count).length <
      (ofBytes (frames.flatten.take cut)).readBound := by
    rw [readBound, ofBytes, List.length_take, List.length_take, Nat.min_eq_left inside]
    omega
  refine ⟨count, _, complete, yields, yields.readTimes_eq enough, fun boundary => ?_, fun amid => ?_⟩
  · exact if_pos (between boundary)
  · refine ⟨.shortRead, if_neg fun boundary => amid ⟨count, boundary⟩, rfl⟩

/-- A subscription with the longest key, a frame of one byte and the opcode of a third request: the
third is missing. -/
theorem requests_of_cut_stream_behind_opcode :
    let key := String.ofList (List.replicate 40 'k')
    let requests : List Request := [.subscribe key, .disconnect, .unsubscribe "a"]
    let frames : List Bytes := [0x33 :: List.replicate 40 0x6B, [0x32],
      0x34 :: 0x61 :: List.replicate 39 0]
    List.Forall₂ (fun request frame => encodeRequest request = .ok frame) requests frames ∧
    readAll readRequest (ofBytes (frames.flatten.take 43)) =
      ([.subscribe key, .disconnect], .error (.io .shortRead), ofBytes []) ∧
    ∃ count ending, (∀ n < 3, n < count ↔ (frames.take (n + 1)).flatten.length ≤ 43) ∧
      Yields readRequest (ofBytes (frames.flatten.take 43)) (requests.take count) ending
        (ofBytes []) := by
  intro key requests frames
  have encoded : List.Forall₂ (fun request frame => encodeRequest request = .ok frame)
      requests frames :=
    .cons (by decide +kernel) (.cons (by decide +kernel) (.cons (by decide +kernel) .nil))
  obtain ⟨count, ending, complete, yields, -⟩ :=
    (requests_of_cut_stream encoded).1 43 (by decide +kernel)
  exact ⟨encoded, by decide +kernel, count, ending, complete, yields⟩

end Wire

end WatchedStore
