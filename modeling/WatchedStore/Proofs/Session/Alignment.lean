import Mathlib.Data.List.Basic
import WatchedStore.Proofs.Session.Chunks
import WatchedStore.Session.Feed

/-! # The alignment of a feed

A client that waits for notifications stays on the boundaries of frames, whatever chunks the bytes
come in, wherever its deadlines expire and however it mixes waits with and without a deadline. Its
results are the frames of the channel in their order and then the end of the channel; a wait that
expires takes nothing away and adds nothing. The channel ends here, it does not fail.
-/

namespace WatchedStore

namespace Wire

/-- The bytes of the frame with the given number, counted from zero. -/
def frameAt (stream : Bytes) (number : Nat) : Bytes :=
  (stream.drop (number * noticeSize)).take noticeSize

/-- How many whole frames a stream has. -/
def frameCount (stream : Bytes) : Nat := stream.length / noticeSize

variable {stream : Bytes}

theorem frameCount_of_lt (short : stream.length < noticeSize) : frameCount stream = 0 :=
  Nat.div_eq_of_lt short

theorem frameCount_of_le (whole : noticeSize ≤ stream.length) :
    frameCount stream = frameCount (stream.drop noticeSize) + 1 := by
  have size : 0 < noticeSize := by decide
  rw [frameCount, frameCount, List.length_drop, Nat.div_eq_sub_div size whole]

theorem frameAt_zero (stream : Bytes) : frameAt stream 0 = stream.take noticeSize := by
  rw [frameAt, Nat.zero_mul, List.drop_zero]

/-- Behind the first frame the frames count from there. -/
theorem frameAt_succ (stream : Bytes) (number : Nat) :
    frameAt stream (number + 1) = frameAt (stream.drop noticeSize) number := by
  rw [frameAt, frameAt, List.drop_drop, Nat.succ_mul, Nat.add_comm]

/-- A frame that does not decode breaks the protocol. -/
theorem decodeNotice_eq_error {frame : Bytes} {error : Error}
    (malformed : decodeNotice frame = .error error) : ∃ fault, error = .protocol fault := by
  unfold decodeNotice at malformed
  cases field : decodeField frame with
  | error refused =>
    rw [field] at malformed
    obtain rfl : refused = error := Except.error.inj malformed
    unfold decodeField at field
    split at field
    · cases field
    · exact ⟨_, (Except.error.inj field).symm⟩
  | ok text =>
    rw [field] at malformed
    dsimp only [bind, Except.bind] at malformed
    split at malformed
    · cases malformed
    · exact ⟨_, (Except.error.inj malformed).symm⟩

end Wire

namespace Session

open WatchedStore.Wire

/-- The bytes that arrivals bring. -/
def unread : List Arrival → Bytes
  | [] => []
  | .chunk bytes :: rest => bytes ++ unread rest
  | _ :: rest => unread rest

theorem unread_of_delivers {arrivals : List Arrival} {bytes : Bytes}
    (delivers : Delivers arrivals bytes) : unread (arrivals ++ [.ended]) = bytes := by
  induction delivers with
  | nil => rfl
  | idle later ih => exact ih
  | chunk byte block later ih => exact congrArg (byte :: block ++ ·) ih

/-- A chunk with any bytes in it brings these in front. -/
theorem Delivers.block {arrivals : List Arrival} {block bytes : Bytes} (nonempty : block ≠ [])
    (later : Delivers arrivals bytes) : Delivers (.chunk block :: arrivals) (block ++ bytes) := by
  obtain ⟨byte, rest, rfl⟩ := List.exists_cons_of_ne_nil nonempty
  exact .chunk byte rest later

/-- A call that waits for a notification, and what it came to. The patience is the number of reads
before its deadline; none when it has no deadline. -/
structure Wait where
  patience : Option Nat
  receipt : Receipt
deriving DecidableEq, Repr

namespace Wait

/-- What the call returns; nothing while it goes on. -/
def result (wait : Wait) : Option (Except Error (Option Notice)) :=
  match wait.patience with
  | none => wait.receipt.toResult
  | some _ => some wait.receipt.toTimedResult

/-- What the call returns once the channel has ended. -/
def endResult (wait : Wait) : Except Error (Option Notice) :=
  match wait.patience with
  | none => .ok none
  | some _ => .error (.channelClosed .noticesEnded)

theorem result_ofFrame (patience : Option Nat) (frame : Bytes) :
    (Wait.mk patience (.ofFrame frame)).result = some ((decodeNotice frame).map some) := by
  unfold Receipt.ofFrame
  cases decodeNotice frame <;> cases patience <;> rfl

theorem result_closed (patience : Option Nat) :
    (Wait.mk patience (.closed .noticesEnded)).result =
      some (Wait.mk patience (.closed .noticesEnded)).endResult := by
  cases patience <;> rfl

end Wait

/-- A complete frame is no expired deadline, whatever it holds. -/
theorem Receipt.ofFrame_ne_timedOut (frame : Bytes) : ofFrame frame ≠ .timedOut := by
  unfold ofFrame
  cases decodeNotice frame <;> exact Receipt.noConfusion

namespace Feed

/-- A feed has these bytes still to give before its channel ends: those it keeps, less than a frame,
and those that arrive behind them. -/
structure Holds (feed : Feed) (stream : Bytes) : Prop where
  partly : feed.kept.length < noticeSize
  arriving : ∃ arrivals bytes, Delivers arrivals bytes ∧ feed.arrivals = arrivals ++ [.ended] ∧
    feed.kept ++ bytes = stream

/-- How a wait ends on a feed with these arrivals that has the stream still to give. -/
inductive Ends (arrivals : List Arrival) (stream : Bytes) (patience : Option Nat) :
    Receipt × Feed → Prop
  | timedOut {feed : Feed} {reads : Nat} (limited : patience = some reads)
      (used : reads < arrivals.length) (holds : feed.Holds stream) :
    Ends arrivals stream patience (.timedOut, feed)
  | frame {feed : Feed} (whole : noticeSize ≤ stream.length)
      (holds : feed.Holds (stream.drop noticeSize)) :
    Ends arrivals stream patience (.ofFrame (stream.take noticeSize), feed)
  | closed {feed : Feed} (short : stream.length < noticeSize) (holds : feed.Holds stream) :
    Ends arrivals stream patience (.closed .noticesEnded, feed)

variable {arrivals : List Arrival} {bytes kept stream : Bytes} {patience : Option Nat} {feed : Feed}

theorem Holds.of_delivers (delivers : Delivers arrivals bytes) (partly : kept.length < noticeSize) :
    Holds ⟨kept, arrivals ++ [.ended]⟩ (kept ++ bytes) :=
  ⟨partly, arrivals, bytes, delivers, rfl, rfl⟩

theorem Holds.kept_append_unread (holds : feed.Holds stream) :
    feed.kept ++ unread feed.arrivals = stream := by
  obtain ⟨arrivals, bytes, delivers, arriving, rfl⟩ := holds.arriving
  rw [arriving, unread_of_delivers delivers]

/-- One read less before the deadline, and one arrival less. -/
theorem Ends.cons {result : Receipt × Feed} (patient : patience ≠ some 0)
    (ends : Ends arrivals stream (patience.map (· - 1)) result) (arrival : Arrival) :
    Ends (arrival :: arrivals) stream patience result := by
  cases ends with
  | timedOut limited used holds =>
    obtain ⟨reads, rfl, rfl⟩ := Option.map_eq_some_iff.mp limited
    refine .timedOut rfl ?_ holds
    rw [List.length_cons]
    omega
  | frame whole holds => exact .frame whole holds
  | closed short holds => exact .closed short holds

/-- A frame that is complete is handed out, and the arrivals are left alone. -/
theorem gather_of_complete (delivers : Delivers arrivals bytes)
    (full : kept.length = noticeSize) (patience : Option Nat) :
    Ends (arrivals ++ [.ended]) (kept ++ bytes) patience
      (gather patience kept (arrivals ++ [.ended])) := by
  have handed : gather patience kept (arrivals ++ [.ended]) =
      (.ofFrame ((kept ++ bytes).take noticeSize), ⟨[], arrivals ++ [.ended]⟩) := by
    rw [← full, List.take_left]
    cases arrivals <;> simp [gather, full]
  rw [handed]
  refine .frame (by rw [List.length_append, full]; exact Nat.le_add_right ..) ?_
  rw [← full, List.drop_left]
  exact Holds.of_delivers delivers (by decide)

/-- A wait ends in one of three ways, wherever the chunks are cut and the deadline expires. The
induction is on the reads, with what is kept and the patience generalised. -/
theorem ends_gather (delivers : Delivers arrivals bytes) (partly : kept.length ≤ noticeSize)
    (patience : Option Nat) :
    Ends (arrivals ++ [.ended]) (kept ++ bytes) patience
      (gather patience kept (arrivals ++ [.ended])) := by
  induction delivers generalizing kept patience with
  | nil =>
    rcases Nat.eq_or_lt_of_le partly with full | short
    · exact gather_of_complete .nil full patience
    · have holds : Holds ⟨kept, [.ended]⟩ (kept ++ []) := Holds.of_delivers .nil short
      rw [List.nil_append, gather, if_neg (Nat.not_le.mpr short)]
      split
      · next expired => exact .timedOut expired (by decide) holds
      · exact .closed (by rwa [List.append_nil]) holds
  | @idle arrivals bytes later ih =>
    rcases Nat.eq_or_lt_of_le partly with full | short
    · exact gather_of_complete (.idle later) full patience
    · rw [List.cons_append, gather, if_neg (Nat.not_le.mpr short)]
      split
      · next expired =>
        exact .timedOut expired (Nat.zero_lt_succ _) (Holds.of_delivers (.idle later) short)
      · next patient => exact (ih partly _).cons patient .idle
  | @chunk arrivals bytes byte block later ih =>
    rcases Nat.eq_or_lt_of_le partly with full | short
    · exact gather_of_complete (.chunk byte block later) full patience
    · rw [List.cons_append, gather, if_neg (Nat.not_le.mpr short)]
      split
      · next expired =>
        exact .timedOut expired (Nat.zero_lt_succ _)
          (Holds.of_delivers (.chunk byte block later) short)
      · next patient =>
        dsimp only
        split
        · next fits =>
          have partlyThen : (kept ++ byte :: block).length ≤ noticeSize := by
            rw [List.length_append]
            omega
          rw [← List.append_assoc]
          exact (ih partlyThen _).cons patient (.chunk (byte :: block))
        · -- The chunk goes beyond the frame; what is beyond is not empty.
          next long =>
          obtain ⟨next, more, beyond⟩ : ∃ next more,
              (byte :: block).drop (noticeSize - kept.length) = next :: more :=
            List.exists_cons_of_length_pos (by rw [List.length_drop]; omega)
          have handed : kept ++ (byte :: block).take (noticeSize - kept.length) =
              (kept ++ (byte :: block ++ bytes)).take noticeSize := by
            rw [List.take_append, List.take_of_length_le partly,
              List.take_append_of_le_length (Nat.le_of_not_le long)]
          have left : (kept ++ (byte :: block ++ bytes)).drop noticeSize = next :: more ++ bytes := by
            rw [List.drop_append, List.drop_eq_nil_of_le partly, List.nil_append,
              List.drop_append_of_le_length (Nat.le_of_not_le long), beyond]
          rw [handed, beyond]
          refine .frame ?_ ?_
          · simp only [List.length_append]
            omega
          · rw [left]
            exact @Holds.of_delivers _ _ [] (.chunk next more later) (by decide)

/-- No wait puts arrivals back. -/
theorem length_arrivals_gather_le (patience : Option Nat) (kept : Bytes) (arrivals : List Arrival) :
    (gather patience kept arrivals).2.arrivals.length ≤ arrivals.length := by
  fun_induction gather patience kept arrivals <;> grind

/-- Calls one after the other. -/
def waits (feed : Feed) : List (Option Nat) → List Wait × Feed
  | [] => ([], feed)
  | patience :: rest =>
    let (receipt, feed) := feed.next patience
    let (later, feed) := waits feed rest
    (⟨patience, receipt⟩ :: later, feed)

theorem waits_cons (feed : Feed) (patience : Option Nat) (rest : List (Option Nat)) :
    feed.waits (patience :: rest) =
      (⟨patience, (feed.next patience).1⟩ :: ((feed.next patience).2.waits rest).1,
        ((feed.next patience).2.waits rest).2) := rfl

theorem map_patience_waits (feed : Feed) (patiences : List (Option Nat)) :
    (feed.waits patiences).1.map Wait.patience = patiences := by
  induction patiences generalizing feed with
  | nil => rfl
  | cons patience rest ih => rw [waits_cons, List.map_cons, ih]

/-- The waits that did not just expire. -/
def answered (waits : List Wait) : List Wait := waits.filter fun wait => wait.receipt ≠ .timedOut

theorem Holds.ends_next (holds : feed.Holds stream) (patience : Option Nat) :
    Ends feed.arrivals stream patience (feed.next patience) := by
  obtain ⟨arrivals, bytes, delivers, arriving, rfl⟩ := holds.arriving
  rw [next, arriving]
  exact ends_gather delivers (Nat.le_of_lt holds.partly) patience

/-- However a wait ends, the feed has the rest of the stream still to give. -/
theorem Ends.exists_holds {result : Receipt × Feed} (ends : Ends arrivals stream patience result) :
    ∃ rest, result.2.Holds rest := by
  cases ends with
  | timedOut limited used holds => exact ⟨_, holds⟩
  | frame whole holds => exact ⟨_, holds⟩
  | closed short holds => exact ⟨_, holds⟩

/-- Only a deadline makes a wait expire, and one with enough reads before it does not. -/
theorem Holds.reads_lt (holds : feed.Holds stream) {patiences : List (Option Nat)} {wait : Wait}
    (member : wait ∈ (feed.waits patiences).1) (expired : wait.receipt = .timedOut) :
    ∃ reads, wait.patience = some reads ∧ reads < feed.arrivals.length := by
  induction patiences generalizing feed stream with
  | nil => cases member
  | cons patience rest ih =>
    have ends := holds.ends_next patience
    have fewer : (feed.next patience).2.arrivals.length ≤ feed.arrivals.length :=
      length_arrivals_gather_le patience feed.kept feed.arrivals
    rw [waits_cons] at member
    rcases List.mem_cons.mp member with rfl | later
    · generalize feed.next patience = outcome at ends expired
      cases ends with
      | timedOut limited used kept => exact ⟨_, limited, used⟩
      | frame whole kept => exact absurd expired (Receipt.ofFrame_ne_timedOut _)
      | closed short kept => cases expired
    · obtain ⟨left, kept⟩ := ends.exists_holds
      obtain ⟨reads, limited, used⟩ := ih kept later
      exact ⟨reads, limited, Nat.lt_of_lt_of_le used fewer⟩

/-- The results of the waits that did not expire, and what is left to give behind them. The induction
is on the calls; what the feed holds is the invariant. -/
theorem Holds.answers (holds : feed.Holds stream) (patiences : List (Option Nat)) :
    let run := feed.waits patiences
    (∀ number wait, (answered run.1)[number]? = some wait →
      wait.result = some (if number < frameCount stream
        then (decodeNotice (frameAt stream number)).map some else wait.endResult)) ∧
    run.2.Holds
      (stream.drop (min (answered run.1).length (frameCount stream) * noticeSize)) := by
  induction patiences generalizing feed stream with
  | nil =>
    refine ⟨fun _ _ place => (nomatch place), ?_⟩
    rw [waits, answered, List.filter_nil, List.length_nil, Nat.zero_min, Nat.zero_mul,
      List.drop_zero]
    exact holds
  | cons patience rest ih =>
    dsimp only
    rw [waits_cons]
    have ends := holds.ends_next patience
    generalize feed.next patience = outcome at ends ⊢
    cases ends with
    | timedOut limited used kept => exact ih kept
    | @frame later whole kept =>
      obtain ⟨results, left⟩ := ih kept
      have counted := frameCount_of_le whole
      have first :
          answered (⟨patience, .ofFrame (stream.take noticeSize)⟩ :: (later.waits rest).1) =
            ⟨patience, .ofFrame (stream.take noticeSize)⟩ :: answered (later.waits rest).1 :=
        List.filter_cons_of_pos (by simp [Receipt.ofFrame_ne_timedOut])
      dsimp only
      rw [first]
      constructor
      · rintro (_ | number) wait place
        · obtain rfl := Option.some.inj place
          rw [Wait.result_ofFrame, if_pos (by omega), frameAt_zero]
        · rw [results number wait place, frameAt_succ, counted]
          simp only [Nat.add_lt_add_iff_right]
      · rw [List.length_cons, counted, Nat.add_min_add_right, Nat.succ_mul, Nat.add_comm,
          ← List.drop_drop]
        exact left
    | @closed later short kept =>
      obtain ⟨results, left⟩ := ih kept
      have counted := frameCount_of_lt short
      have first : answered (⟨patience, .closed .noticesEnded⟩ :: (later.waits rest).1) =
          ⟨patience, .closed .noticesEnded⟩ :: answered (later.waits rest).1 :=
        List.filter_cons_of_pos rfl
      rw [counted, Nat.min_zero] at left
      dsimp only
      rw [first, counted, Nat.min_zero]
      refine ⟨?_, left⟩
      rintro (_ | number) wait place
      · obtain rfl := Option.some.inj place
        exact Wait.result_closed patience
      · rw [results number wait place, counted]
        simp only [Nat.not_lt_zero, ↓reduceIte]

/-- A channel brings any bytes in any chunks and then ends, and a client makes any calls, with and
without a deadline. Every call comes to something. The calls that do not expire return, in their
order, what the frames of the bytes decode to, be it an error of the protocol, and behind the last
whole frame that the channel is closed. A call expires only if it has a deadline and that comes
before the arrivals are used up. What is kept then is less than a frame, and with what still arrives
it is the stream behind the frames that were returned: no byte is lost and none comes twice. -/
theorem results_of_stream {stream : Bytes} (delivers : Delivers arrivals stream)
    (patiences : List (Option Nat)) :
    let run := (ofArrivals (arrivals ++ [.ended])).waits patiences
    let told := answered run.1
    run.1.map Wait.patience = patiences ∧
    (∀ number wait, told[number]? = some wait →
      wait.result = some (if number < frameCount stream
        then (decodeNotice (frameAt stream number)).map some else wait.endResult)) ∧
    (∀ frame error, decodeNotice frame = .error error → ∃ fault, error = .protocol fault) ∧
    (∀ wait ∈ run.1, wait.receipt = .timedOut → wait.result = some (.ok none) ∧
      ∃ reads, wait.patience = some reads ∧ reads ≤ arrivals.length) ∧
    run.2.kept.length < noticeSize ∧
    run.2.kept ++ unread run.2.arrivals =
      stream.drop (min told.length (frameCount stream) * noticeSize) := by
  intro run told
  have start : Holds (ofArrivals (arrivals ++ [.ended])) stream :=
    @Holds.of_delivers _ _ [] delivers (by decide)
  obtain ⟨results, left⟩ := start.answers patiences
  refine ⟨map_patience_waits _ patiences, results, fun _ _ => decodeNotice_eq_error, ?_,
    left.partly, left.kept_append_unread⟩
  intro wait member expired
  obtain ⟨reads, limited, used⟩ := start.reads_lt member expired
  refine ⟨?_, reads, limited, ?_⟩
  · rw [Wait.result, limited, expired]
    rfl
  · rw [ofArrivals, List.length_append, List.length_singleton] at used
    exact Nat.le_of_lt_succ used

/-- A malformed frame and a good one in three chunks cut inside them, with three bytes left at the
end; deadlines expire before the first byte, inside each frame and at the end. -/
theorem results_of_stream_cut_inside_frames :
    let text := Text.encode "(a, 1)"
    let first := List.replicate 80 120
    let second := List.replicate 5 120 ++ text
    let third := List.replicate 79 0 ++ text.take 3
    let stream := first ++ (second ++ (third ++ []))
    let arrivals := [.chunk first, .idle, .chunk second, .chunk third]
    let run := (ofArrivals (arrivals ++ [.ended])).waits
      [some 0, some 2, some 3, some 1, none, some 0, some 7, none, some 0]
    Delivers arrivals stream ∧ frameCount stream = 2 ∧
    run.1.map Wait.result =
      [some (.ok none), some (.ok none),
        some (.error (.protocol (.malformedNotice (String.ofList (List.replicate 85 'x'))))),
        some (.ok none), some (.ok (some (.updated "a" "1"))), some (.ok none),
        some (.error (.channelClosed .noticesEnded)), some (.ok none), some (.ok none)] ∧
    run.2.kept ++ unread run.2.arrivals = text.take 3 := by
  intro text first second third stream arrivals run
  have delivers : Delivers arrivals stream :=
    .block (by decide) (.idle (.block (by decide +kernel) (.block (by decide +kernel) .nil)))
  obtain ⟨-, -, -, -, -, left⟩ := results_of_stream delivers
    [some 0, some 2, some 3, some 1, none, some 0, some 7, none, some 0]
  refine ⟨delivers, by decide +kernel, by decide +kernel, left.trans (by decide +kernel)⟩

end Feed

end Session

end WatchedStore
