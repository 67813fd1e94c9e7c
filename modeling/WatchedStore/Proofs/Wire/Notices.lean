import WatchedStore.Proofs.Store.Queued
import WatchedStore.Proofs.Wire.Fields

/-! # Notifications that are read back

Reading looks for the first comma with a space behind it, so a key that holds these two is taken for
a shorter one, and a marker in the place of the value counts as a deletion. Nothing else is lost of a
notification that has a frame, NUL characters apart. None of this can happen to what a store hands
out, but for the marker.
-/

namespace WatchedStore

open WatchedStore.Text WatchedStore.Wire

namespace Wire

open Notice

section Separators

variable {text before after : List Char}

/-- A text is split at its first comma with a space behind it. -/
theorem splitComma?_eq_some_iff :
    splitComma? text = some (before, after) ↔
      text = before ++ ',' :: ' ' :: after ∧ ¬ [',', ' '] <:+: before := by
  induction text using splitComma?.induct generalizing before with
  | case1 => simp [splitComma?]
  | case2 rest =>
    rw [splitComma?]
    constructor
    · rintro ⟨⟩
      exact ⟨rfl, by simp⟩
    · rintro ⟨shape, single⟩
      rcases before with _ | ⟨first, _ | ⟨second, others⟩⟩
      · cases shape
        rfl
      · simp at shape
      · cases shape
        exact absurd ⟨[], others, rfl⟩ single
  | case3 c rest other ih =>
    have step : splitComma? (c :: rest) =
        (splitComma? rest).map fun cut => (c :: cut.1, cut.2) := by
      rw [splitComma?]
      exact other
    rw [step, Option.map_eq_some_iff]
    constructor
    · rintro ⟨⟨front, back⟩, cut, ⟨⟩⟩
      obtain ⟨rfl, single⟩ := ih.mp cut
      refine ⟨rfl, fun holds => ?_⟩
      rcases List.infix_cons_iff.mp holds with first | later
      · obtain ⟨rfl, blank⟩ := List.cons_prefix_cons.mp first
        obtain ⟨others, rfl⟩ := blank
        exact other _ rfl rfl
      · exact single later
    · rintro ⟨shape, single⟩
      rcases before with _ | ⟨first, front⟩
      · cases shape
        exact absurd rfl (other _ rfl)
      · cases shape
        have later : ¬ [',', ' '] <:+: front :=
          fun holds => single (List.infix_cons_iff.mpr (.inr holds))
        exact ⟨(front, after), ih.mpr ⟨rfl, later⟩, rfl⟩

end Separators

section Texts

variable {note : Notice}

theorem asRead_eq_self_iff : note.asRead = note ↔ ∀ key, note ≠ .updated key deletedMarker := by
  cases note with
  | deleted key => simp [asRead]
  | updated key value =>
    by_cases marked : value = deletedMarker <;> simp [asRead, marked]

/-- A text is read as a notification exactly if it is the text of that notification, with no
separator in the key; an update to the marker is never what is read. -/
theorem parseNotice?_eq_some_iff {text : List Char} :
    parseNotice? text = some note ↔
      text = note.text.toList ∧ ¬ [',', ' '] <:+: note.key.toList ∧ note.asRead = note := by
  simp only [parseNotice?, Option.bind_eq_some_iff, between?_eq_some_iff, Option.map_eq_some_iff,
    Prod.exists, splitComma?_eq_some_iff]
  constructor
  · rintro ⟨_, rfl, before, after, ⟨rfl, single⟩, named⟩
    split at named
    · next marked =>
      cases named
      refine ⟨?_, by simpa [Notice.key] using single, rfl⟩
      rw [toList_text, Notice.key, Notice.shown, ← marked, String.toList_ofList,
        String.toList_ofList]
    · next apart =>
      cases named
      refine ⟨?_, by simpa [Notice.key] using single, if_neg apart⟩
      rw [toList_text, Notice.key, Notice.shown, String.toList_ofList, String.toList_ofList]
  · rintro ⟨rfl, single, kept⟩
    refine ⟨_, note.toList_text, _, _, ⟨rfl, single⟩, ?_⟩
    rw [String.ofList_toList, String.ofList_toList, ← asRead_eq, kept]

example : parseNotice? "(a,, b, c)".toList = some (.updated "a," "b, c") := by decide +kernel

end Texts

section Frames

variable {note : Notice} {frame : Bytes}

/-- A frame is read as a notification exactly if the text of that notification stands in front of
its first NUL and is read so. -/
theorem decodeNotice_eq_ok_iff :
    decodeNotice frame = .ok note ↔
      front frame = encode note.text ∧ ¬ [',', ' '] <:+: note.key.toList ∧ note.asRead = note := by
  have read : decodeNotice frame = .ok note ↔
      ∃ text, decodeField frame = .ok text ∧ parseNotice? text.toList = some note := by
    unfold decodeNotice
    rw [bind_eq_ok_iff]
    refine exists_congr fun text => and_congr_right fun _ => ?_
    cases parseNotice? text.toList <;> simp [pure, Except.pure, throw, throwThe, MonadExceptOf.throw]
  simp only [read, decodeField_eq_ok_iff, parseNotice?_eq_some_iff, String.toList_inj]
  constructor
  · rintro ⟨text, same, rfl, rest⟩
    exact ⟨same, rest⟩
  · rintro ⟨same, rest⟩
    exact ⟨note.text, same, rfl, rest⟩

theorem encodeNotice_of_long (long : noticeSize ≤ (encode note.text).length) :
    encodeNotice note = .error (.protocol (.noticeTooLong (encode note.text).length)) :=
  if_pos long

/-- A text has a NUL in its encoding exactly if one of the texts that it consists of has one. -/
theorem zero_mem_encode_text :
    0 ∈ encode note.text ↔ '\x00' ∈ note.key.toList ∨ '\x00' ∈ note.shown.toList := by
  rw [zero_mem_encode_iff, toList_text]
  simp

/-- A notification is read back from its frame unless it holds a NUL, its key a separator, or its
value is the marker. -/
theorem decodeNotice_of_encodeNotice (encoded : encodeNotice note = .ok frame) :
    frame.length = noticeSize ∧
      (decodeNotice frame = .ok note ↔
        ('\x00' ∉ note.key.toList ∧ '\x00' ∉ note.shown.toList) ∧
          ¬ [',', ' '] <:+: note.key.toList ∧ note.asRead = note) := by
  rcases Nat.lt_or_ge (encode note.text).length noticeSize with short | long
  · rw [encodeNotice_of_short short, Except.ok.injEq] at encoded
    subst encoded
    refine ⟨?_, ?_⟩
    · rw [List.length_append, List.length_replicate]
      omega
    · rw [decodeNotice_eq_ok_iff, front_fill, front_eq_self_iff, zero_mem_encode_text, not_or]
  · cases (encodeNotice_of_long long).symm.trans encoded

/-- What was read from a frame has it again with the bytes behind the text cleared, unless the text
fills the frame up. -/
theorem encodeNotice_of_decodeNotice (size : frame.length = noticeSize)
    (decoded : decodeNotice frame = .ok note) :
    encodeNotice note =
      if 0 ∈ frame then .ok (cleared frame) else .error (.protocol (.noticeTooLong noticeSize)) := by
  obtain ⟨same, -⟩ := decodeNotice_eq_ok_iff.mp decoded
  split
  · next ended =>
    have short : (encode note.text).length < noticeSize := by
      rw [← same, ← size]
      exact length_front_lt ended
    rw [encodeNotice_of_short short, cleared_eq, same, size]
  · next clear =>
    rw [front_of_clear clear] at same
    rw [encodeNotice_of_long (by rw [← same, size]), ← same, size]

/-- A key and a value of 40 bytes each always fit. -/
theorem length_encode_text_lt (key : note.key.utf8ByteSize ≤ fieldSize)
    (value : note.shown.utf8ByteSize ≤ fieldSize) : (encode note.text).length < noticeSize := by
  rw [length_encode_text_eq, length_encode, length_encode, noticeSize]
  omega

end Frames

end Wire

namespace Hub

/-- Frames of notifications, in both directions. A text of 85 bytes or more has none. From its frame
a notification is read back unless it holds a NUL, its key holds a comma with a space behind it, or
it is an update to the marker of deletions. What a run of the store hands out always has a frame and
is read back from it, but for such an update, which is read as a deletion. And what is read from any
frame has this frame again, with the bytes behind its first NUL cleared; if the frame has no NUL, the
notification is too long. -/
theorem notice_frames :
    (∀ note : Notice,
      ((∃ error, encodeNotice note = .error error) ↔ 85 ≤ note.text.utf8ByteSize) ∧
      ∀ frame, encodeNotice note = .ok frame → frame.length = 85 ∧
        (decodeNotice frame = .ok note ↔
          ('\x00' ∉ note.key.toList ∧ '\x00' ∉ note.shown.toList) ∧
          ¬ [',', ' '] <:+: note.key.toList ∧ ∀ key, note ≠ .updated key deletedMarker)) ∧
    (∀ note : Notice, note.key.utf8ByteSize ≤ 40 → note.shown.utf8ByteSize ≤ 40 →
      ∃ frame, encodeNotice note = .ok frame) ∧
    (∀ limit calls note, (empty limit).Delivers calls note → ∃ frame,
      encodeNotice note = .ok frame ∧
      decodeNotice frame = .ok (match note with
        | .updated key value => if value = deletedMarker then .deleted key else .updated key value
        | .deleted key => .deleted key)) ∧
    ∀ frame note, frame.length = 85 → decodeNotice frame = .ok note →
      encodeNotice note =
        if 0 ∈ frame then .ok (cleared frame) else .error (.protocol (.noticeTooLong 85)) := by
  refine ⟨fun note => ⟨?_, fun frame encoded => ?_⟩, fun note key value => ?_,
    fun limit calls note delivers => ?_, fun frame note size decoded => ?_⟩
  · rw [← length_encode]
    rcases Nat.lt_or_ge (encode note.text).length 85 with short | long
    · simp only [encodeNotice_of_short short, reduceCtorEq, exists_false, false_iff, not_le, short]
    · simp only [encodeNotice_of_long long, Except.error.injEq, exists_eq', long]
  · rw [← asRead_eq_self_iff]
    exact decodeNotice_of_encodeNotice encoded
  · exact ⟨_, encodeNotice_of_short (length_encode_text_lt key value)⟩
  · have plain : note.IsPlain := (isPlain_empty limit).of_delivers delivers
    have read := decodeNotice_frame plain
    refine ⟨note.frame, encodeNotice_of_plain plain, read.trans ?_⟩
    cases note <;> rfl
  · exact encodeNotice_of_decodeNotice size decoded

end Hub

end WatchedStore
