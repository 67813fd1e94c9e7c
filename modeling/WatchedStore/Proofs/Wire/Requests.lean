import WatchedStore.Proofs.Wire.Fields

/-! # Requests that are read back

A frame is made for every request whose texts can be sent, and is read as that request; the one
exception is a session that would listen on a channel without a name. The other way round, what is
read from a frame has that frame again with the bytes cleared that reading ignores. How a frame is
put together from what a stream delivers is not the subject here.
-/

namespace WatchedStore.Wire

open WatchedStore.Text

/-- The names that announce a session. -/
def ConnectRequest.texts (channels : ConnectRequest) : List String :=
  [channels.request, channels.response, channels.notification]

theorem ConnectRequest.mem_texts_iff {channels : ConnectRequest} {text : String} :
    text ∈ channels.texts ↔
      channels.request = text ∨ channels.response = text ∨ channels.notification = text := by
  simp only [texts, List.mem_cons, List.not_mem_nil, or_false, @eq_comm _ text]

/-- The texts that a request carries. -/
def Request.texts : Request → List String
  | subscribe key => [key]
  | unsubscribe key => [key]
  | disconnect => []

/-- One of the fields behind the opcode of a CONNECT frame. -/
def connectField (frame : Bytes) (n : Nat) : Bytes := (frame.drop (1 + n * fieldSize)).take fieldSize

theorem decodeOpcode_eq_ok_iff {byte : UInt8} {opcode : Opcode} :
    decodeOpcode byte = .ok opcode ↔ byte = opcode.byte := by
  rw [← Opcode.ofByte?_eq_some_iff, decodeOpcode]
  cases Opcode.ofByte? byte <;> simp

section Connect

variable {channels : ConnectRequest} {frame : Bytes}

/-- A CONNECT frame consists of its opcode and three fields. -/
theorem encodeConnect_eq_ok_iff :
    encodeConnect channels = .ok frame ↔
      ∃ request response notification,
        encodeField channels.request = .ok request ∧
        encodeField channels.response = .ok response ∧
        encodeField channels.notification = .ok notification ∧
        frame = Opcode.connect.byte :: (request ++ response ++ notification) := by
  unfold encodeConnect
  cases encodeField channels.request with
  | error fault => simp [bind, Except.bind]
  | ok request =>
    cases encodeField channels.response with
    | error fault => simp [bind, Except.bind]
    | ok response =>
      cases encodeField channels.notification with
      | error fault => simp [bind, Except.bind]
      | ok notification => simp [bind, Except.bind, pure, Except.pure, eq_comm]

/-- A CONNECT frame is made exactly for names that can be sent. -/
theorem encodeConnect_isOk_iff :
    (∃ frame, encodeConnect channels = .ok frame) ↔ ∀ text ∈ channels.texts, IsSendable text := by
  simp only [encodeConnect_eq_ok_iff, ConnectRequest.texts, List.forall_mem_cons, ← encodeField_isOk_iff]
  constructor
  · rintro ⟨frame, request, response, notification, first, second, third, -⟩
    exact ⟨⟨request, first⟩, ⟨response, second⟩, ⟨notification, third⟩, List.forall_mem_nil _⟩
  · rintro ⟨⟨request, first⟩, ⟨response, second⟩, ⟨notification, third⟩, -⟩
    exact ⟨_, request, response, notification, first, second, third, rfl⟩

/-- The fields of a frame are what stands behind its opcode. -/
theorem connectField_cons (byte : UInt8) (fields : Bytes) (n : Nat) :
    connectField (byte :: fields) n = (fields.drop (n * fieldSize)).take fieldSize := by
  rw [connectField, Nat.add_comm, List.drop_succ_cons]

theorem connectField_append (byte : UInt8) {request response notification : Bytes}
    (first : request.length = fieldSize) (second : response.length = fieldSize)
    (third : notification.length = fieldSize) :
    let frame := byte :: (request ++ response ++ notification)
    connectField frame 0 = request ∧ connectField frame 1 = response ∧
      connectField frame 2 = notification := by
  intro frame
  have both : (request ++ response).length = 2 * fieldSize := by
    rw [List.length_append, first, second, Nat.two_mul]
  refine ⟨?_, ?_, ?_⟩
  · rw [connectField_cons, Nat.zero_mul, List.drop_zero, List.append_assoc, List.take_left' first]
  · rw [connectField_cons, Nat.one_mul, List.append_assoc, List.drop_left' first,
      List.take_left' second]
  · rw [connectField_cons, List.drop_left' both, ← third, List.take_length]

theorem length_connectField {n : Nat} (size : frame.length = connectSize) (small : n < 3) :
    (connectField frame n).length = fieldSize := by
  rw [connectField, List.length_take, List.length_drop, size, connectSize]
  simp only [fieldSize]
  omega

/-- The last field reaches to the end of the frame. -/
theorem connectField_two {byte : UInt8} {fields : Bytes}
    (size : (byte :: fields).length = connectSize) :
    connectField (byte :: fields) 2 = fields.drop (2 * fieldSize) := by
  rw [connectField_cons]
  refine List.take_of_length_le ?_
  rw [List.length_cons, connectSize] at size
  rw [List.length_drop]
  omega

/-- A frame of the right size and opcode whose fields are texts is refused only for a channel
without a name. -/
theorem decodeConnect_of_fields (size : frame.length = connectSize)
    (head : frame.head? = some Opcode.connect.byte)
    (first : decodeField (connectField frame 0) = .ok channels.request)
    (second : decodeField (connectField frame 1) = .ok channels.response)
    (third : decodeField (connectField frame 2) = .ok channels.notification) :
    decodeConnect frame =
      if "" ∈ channels.texts then .error (.protocol .emptyChannel) else .ok channels := by
  obtain ⟨fields, rfl⟩ := List.head?_eq_some_iff.mp head
  rw [connectField_two size] at third
  rw [connectField_cons, Nat.one_mul] at second
  rw [connectField_cons, Nat.zero_mul, List.drop_zero] at first
  simp only [decodeConnect, size, decodeOpcode, Opcode.ofByte?_byte, first, second, third, bind,
    Except.bind, ne_eq, not_true_eq_false, ↓reduceIte, ConnectRequest.mem_texts_iff]
  rfl

/-- What it takes for a frame to announce a session. -/
theorem decodeConnect_eq_ok_iff :
    decodeConnect frame = .ok channels ↔
      frame.length = connectSize ∧ frame.head? = some Opcode.connect.byte ∧
        decodeField (connectField frame 0) = .ok channels.request ∧
        decodeField (connectField frame 1) = .ok channels.response ∧
        decodeField (connectField frame 2) = .ok channels.notification ∧ "" ∉ channels.texts := by
  constructor
  · intro decoded
    obtain _ | ⟨byte, fields⟩ := frame
    · cases decoded
    by_cases size : (byte :: fields).length = connectSize
    · rw [decodeConnect, if_neg (not_not_intro size)] at decoded
      obtain ⟨opcode, named, decoded⟩ := bind_eq_ok_iff.mp decoded
      by_cases connects : opcode = .connect
      · rw [if_neg (not_not_intro connects)] at decoded
        obtain ⟨request, first, decoded⟩ := bind_eq_ok_iff.mp decoded
        obtain ⟨response, second, decoded⟩ := bind_eq_ok_iff.mp decoded
        obtain ⟨notification, third, decoded⟩ := bind_eq_ok_iff.mp decoded
        have same : channels = ⟨request, response, notification⟩ ∧
            ¬ (request = "" ∨ response = "" ∨ notification = "") := by
          split at decoded
          · cases decoded
          · next named =>
            cases decoded
            exact ⟨rfl, named⟩
        obtain ⟨rfl, filled⟩ := same
        have head : byte = Opcode.connect.byte := connects ▸ decodeOpcode_eq_ok_iff.mp named
        refine ⟨size, congrArg some head, ?_, ?_, ?_, ConnectRequest.mem_texts_iff.not.mpr filled⟩
        · rwa [connectField_cons, Nat.zero_mul, List.drop_zero]
        · rwa [connectField_cons, Nat.one_mul]
        · rwa [connectField_two size]
      · rw [if_pos connects] at decoded
        cases decoded
    · rw [decodeConnect, if_pos size] at decoded
      cases decoded
  · rintro ⟨size, head, first, second, third, named⟩
    rw [decodeConnect_of_fields size head first second third, if_neg named]

/-- A frame that was made for a session is read back, unless a channel has no name. -/
theorem decodeConnect_of_encodeConnect (encoded : encodeConnect channels = .ok frame) :
    frame.length = connectSize ∧
      decodeConnect frame =
        if "" ∈ channels.texts then .error (.protocol .emptyChannel) else .ok channels := by
  obtain ⟨request, response, notification, first, second, third, rfl⟩ :=
    encodeConnect_eq_ok_iff.mp encoded
  have firstSize := length_of_encodeField first
  have secondSize := length_of_encodeField second
  have thirdSize := length_of_encodeField third
  have size : (Opcode.connect.byte :: (request ++ response ++ notification)).length =
      connectSize := by
    rw [List.length_cons, List.length_append, List.length_append, firstSize, secondSize, thirdSize]
    rfl
  obtain ⟨zero, one, two⟩ := connectField_append Opcode.connect.byte firstSize secondSize thirdSize
  refine ⟨size, decodeConnect_of_fields size rfl ?_ ?_ ?_⟩
  · rw [zero, decodeField_of_encodeField first]
  · rw [one, decodeField_of_encodeField second]
  · rw [two, decodeField_of_encodeField third]

/-- A frame announces a session exactly if it has the size and the opcode for that and each of its
fields starts with a text in front of the first NUL. -/
theorem decodeConnect_isOk_iff :
    (∃ channels, decodeConnect frame = .ok channels) ↔
      frame.length = connectSize ∧ frame.head? = some Opcode.connect.byte ∧
        ∀ n < 3, ∃ text, text ≠ "" ∧ front (connectField frame n) = encode text := by
  simp only [decodeConnect_eq_ok_iff, decodeField_eq_ok_iff, ConnectRequest.mem_texts_iff, not_or]
  constructor
  · rintro ⟨channels, size, head, first, second, third, one, two, three⟩
    refine ⟨size, head, fun n small => ?_⟩
    obtain rfl | rfl | rfl : n = 0 ∨ n = 1 ∨ n = 2 := by omega
    · exact ⟨_, one, first⟩
    · exact ⟨_, two, second⟩
    · exact ⟨_, three, third⟩
  · rintro ⟨size, head, named⟩
    obtain ⟨request, one, first⟩ := named 0 (by decide)
    obtain ⟨response, two, second⟩ := named 1 (by decide)
    obtain ⟨notification, three, third⟩ := named 2 (by decide)
    exact ⟨⟨request, response, notification⟩, size, head, first, second, third, one, two, three⟩

/-- A session that was read has its frame again, with what stands behind the names cleared. -/
theorem encodeConnect_of_decodeConnect (decoded : decodeConnect frame = .ok channels) :
    encodeConnect channels =
      .ok (Opcode.connect.byte :: (cleared (connectField frame 0) ++
        cleared (connectField frame 1) ++ cleared (connectField frame 2))) := by
  obtain ⟨size, -, first, second, third, -⟩ := decodeConnect_eq_ok_iff.mp decoded
  refine encodeConnect_eq_ok_iff.mpr ⟨_, _, _, ?_, ?_, ?_, rfl⟩
  · exact encodeField_of_decodeField (length_connectField size (by decide)) first
  · exact encodeField_of_decodeField (length_connectField size (by decide)) second
  · exact encodeField_of_decodeField (length_connectField size (by decide)) third

end Connect

section Request

variable {request : Request} {opcode : Opcode} {payload : Bytes}

/-- A frame is made exactly for a request whose key, if it has one, can be sent. -/
theorem encodeRequest_isOk_iff :
    (∃ frame, encodeRequest request = .ok frame) ↔ ∀ text ∈ request.texts, IsSendable text := by
  cases request with
  | disconnect => simp [encodeRequest, Request.texts]
  | subscribe key | unsubscribe key =>
    rw [Request.texts, List.forall_mem_singleton, ← encodeField_isOk_iff, encodeRequest]
    cases encodeField key <;> simp [Except.map]

/-- What it takes for a payload to be a request. -/
theorem decodeRequest_eq_ok_iff :
    decodeRequest opcode payload = .ok request ↔
      opcode = request.opcode ∧ payload.length = opcode.payloadLength ∧
        ∀ text ∈ request.texts, decodeField payload = .ok text := by
  by_cases size : payload.length = opcode.payloadLength
  · unfold decodeRequest
    rw [if_neg (not_not_intro size)]
    cases opcode <;> cases request <;> cases decodeField payload <;>
      simp [size, Request.opcode, Request.texts, Except.map]
  · simp [decodeRequest, size]

/-- A request that was read has its frame again, with what stands behind the key cleared. -/
theorem encodeRequest_of_decodeRequest (decoded : decodeRequest opcode payload = .ok request) :
    encodeRequest request = .ok (opcode.byte :: cleared payload) := by
  obtain ⟨rfl, size, read⟩ := decodeRequest_eq_ok_iff.mp decoded
  cases request with
  | disconnect =>
    rw [List.eq_nil_of_length_eq_zero size]
    rfl
  | subscribe key | unsubscribe key =>
    rw [encodeRequest, encodeField_of_decodeField size (read key (List.mem_singleton_self key))]
    rfl

end Request

/-- Fields, sessions and requests, from the texts to the bytes and back. The texts of at most 40 bytes
without a NUL are the ones that add 40 bytes to a buffer, and the others leave it alone. A frame is
made exactly for texts of that kind; a request is read back from it, and so is a session with three
named channels. A frame of 121 bytes announces a session exactly if its opcode says so and each of
its fields starts with some text in front of its first NUL. Whatever is read has its frame again,
with the bytes behind the first NUL of each field cleared. -/
theorem connect_and_request_frames :
    let encodable (text : String) := text.utf8ByteSize ≤ 40 ∧ '\x00' ∉ text.toList
    (∀ text buffer,
      (encodable text ∧ ∃ field, field.length = 40 ∧ encodeField text = .ok field ∧
          appendField buffer text = (.ok (), buffer ++ field)) ∨
        ¬ encodable text ∧ ∃ fault, encodeField text = .error (.protocol fault) ∧
          appendField buffer text = (.error (.protocol fault), buffer)) ∧
    (∀ channels : ConnectRequest,
      ((∃ frame, encodeConnect channels = .ok frame) ↔ ∀ text ∈ channels.texts, encodable text) ∧
      ∀ frame, encodeConnect channels = .ok frame → frame.length = 121 ∧
        (decodeConnect frame = .ok channels ↔ "" ∉ channels.texts) ∧
        ("" ∈ channels.texts → decodeConnect frame = .error (.protocol .emptyChannel))) ∧
    (∀ request : Request,
      ((∃ frame, encodeRequest request = .ok frame) ↔ ∀ text ∈ request.texts, encodable text) ∧
      ∀ frame, encodeRequest request = .ok frame → ∃ payload,
        frame = request.opcode.byte :: payload ∧ payload.length = request.opcode.payloadLength ∧
        decodeRequest request.opcode payload = .ok request) ∧
    (∀ frame, (∃ channels, decodeConnect frame = .ok channels) ↔
      frame.length = 121 ∧ frame.head? = some 0x31 ∧
        ∀ n < 3, ∃ text, text ≠ "" ∧ (connectField frame n).takeWhile (· ≠ 0) = encode text) ∧
    (∀ frame channels, decodeConnect frame = .ok channels →
      encodeConnect channels = .ok (0x31 :: (cleared (connectField frame 0) ++
        cleared (connectField frame 1) ++ cleared (connectField frame 2)))) ∧
    ∀ opcode payload request, decodeRequest opcode payload = .ok request →
      opcode ≠ .connect ∧ payload.length = opcode.payloadLength ∧ opcode = request.opcode ∧
        encodeRequest request = .ok (opcode.byte :: cleared payload) := by
  intro encodable
  have sendable : ∀ text, IsSendable text ↔ encodable text := fun text => isSendable_iff
  simp only [← sendable]
  refine ⟨fun text buffer => appendField_cases buffer text,
    fun channels => ⟨encodeConnect_isOk_iff, ?_⟩,
    fun request => ⟨encodeRequest_isOk_iff, fun frame => encodeRequest_eq_ok⟩,
    fun frame => decodeConnect_isOk_iff, fun frame channels => encodeConnect_of_decodeConnect, ?_⟩
  · intro frame encoded
    obtain ⟨size, decoded⟩ := decodeConnect_of_encodeConnect encoded
    refine ⟨size, ?_, fun nameless => ?_⟩
    · rw [decoded]
      simp only [ite_eq_right_iff, reduceCtorEq, imp_false]
    · rw [decoded, if_pos nameless]
  · intro opcode payload request decoded
    obtain ⟨same, size, -⟩ := decodeRequest_eq_ok_iff.mp decoded
    refine ⟨?_, size, same, encodeRequest_of_decodeRequest decoded⟩
    rw [same]
    cases request <;> exact Opcode.noConfusion

end WatchedStore.Wire
