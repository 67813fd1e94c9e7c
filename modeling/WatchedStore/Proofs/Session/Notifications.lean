import WatchedStore.Proofs.Session.Chunks
import WatchedStore.Proofs.Wire.Frames
import WatchedStore.Session.Feed

/-! # Notifications in whatever chunks

A client reads notifications from bytes that come in any chunks, with reads in between that bring
nothing. What it reads depends on the bytes alone: from the frames of some notifications it reads
these, in their order.
-/

namespace WatchedStore.Session

open WatchedStore.Wire

namespace Feed

variable {arrivals : List Arrival} {bytes kept : Bytes}

/-- A frame that is complete needs no more reads. -/
theorem gather_of_full (delivers : Delivers arrivals bytes) (full : kept.length = noticeSize) :
    ∃ rest, Delivers rest ((kept ++ bytes).drop noticeSize) ∧
      gather none kept arrivals = (.ofFrame ((kept ++ bytes).take noticeSize), ⟨[], rest⟩) := by
  refine ⟨arrivals, ?_, ?_⟩
  · rw [← full, List.drop_left]
    exact delivers
  · rw [← full, List.take_left]
    cases arrivals <;> simp [gather, full]

/-- A frame is put together from what is kept and from what arrives, and the bytes behind it are
still to be read. The induction is on the reads; each adds to what is kept or completes the
frame. -/
theorem gather_of_le (delivers : Delivers arrivals bytes) (partly : kept.length ≤ noticeSize)
    (enough : noticeSize ≤ (kept ++ bytes).length) :
    ∃ rest, Delivers rest ((kept ++ bytes).drop noticeSize) ∧
      gather none kept arrivals = (.ofFrame ((kept ++ bytes).take noticeSize), ⟨[], rest⟩) := by
  induction delivers generalizing kept with
  | nil =>
    rw [List.append_nil] at enough
    exact gather_of_full .nil (Nat.le_antisymm partly enough)
  | @idle arrivals bytes later ih =>
    by_cases full : noticeSize ≤ kept.length
    · exact gather_of_full (.idle later) (Nat.le_antisymm partly full)
    · obtain ⟨rest, behind, gathered⟩ := ih partly enough
      refine ⟨rest, behind, ?_⟩
      simp only [gather, if_neg full, reduceCtorEq, ↓reduceIte]
      exact gathered
  | @chunk arrivals bytes byte block later ih =>
    by_cases full : noticeSize ≤ kept.length
    · exact gather_of_full (.chunk byte block later) (Nat.le_antisymm partly full)
    · rw [← List.append_assoc] at enough ⊢
      by_cases short : (byte :: block).length ≤ noticeSize - kept.length
      · have partlyThen : (kept ++ byte :: block).length ≤ noticeSize := by
          rw [List.length_append]
          omega
        obtain ⟨rest, behind, gathered⟩ := ih partlyThen enough
        refine ⟨rest, behind, ?_⟩
        simp only [gather, if_neg full, reduceCtorEq, ↓reduceIte, if_pos short]
        exact gathered
      · -- The chunk goes beyond the frame; what is beyond is not empty.
        have long : noticeSize - kept.length < (byte :: block).length := Nat.lt_of_not_le short
        obtain ⟨next, more, split⟩ : ∃ next more,
            (byte :: block).drop (noticeSize - kept.length) = next :: more :=
          List.exists_cons_of_length_pos (by rw [List.length_drop]; omega)
        have within : noticeSize ≤ (kept ++ byte :: block).length := by
          rw [List.length_append]
          omega
        refine ⟨.chunk (next :: more) :: arrivals, ?_, ?_⟩
        · rw [List.drop_append_of_le_length within, List.drop_append,
            List.drop_eq_nil_of_le partly, List.nil_append, split]
          exact .chunk next more later
        · rw [List.take_append_of_le_length within, List.take_append,
            List.take_of_length_le partly, ← split]
          simp only [gather, if_neg full, reduceCtorEq, ↓reduceIte, if_neg short]

/-- Without a byte the wait goes on. -/
theorem gather_of_nil (delivers : Delivers arrivals []) :
    gather none [] arrivals = (.waiting, ⟨[], []⟩) := by
  have nothing : ∀ {arrivals bytes}, Delivers arrivals bytes → bytes = [] →
      gather none [] arrivals = (.waiting, ⟨[], []⟩) := by
    intro arrivals bytes delivers none
    induction delivers with
    | nil => rfl
    | idle later ih => exact ih none
    | chunk byte block later => cases none
  exact nothing delivers rfl

/-- From the frames of notifications about accepted texts a client reads these notifications and no
others, however long it waits. -/
theorem take_frames {notes : List Notice} (plain : ∀ note ∈ notes, note.IsPlain)
    (delivers : Delivers arrivals (notes.flatMap Notice.frame)) {most : Nat}
    (enough : notes.length ≤ most) :
    (ofArrivals arrivals).take most = (notes.map Notice.asRead, false) := by
  induction notes generalizing arrivals most with
  | nil =>
    cases most with
    | zero => rfl
    | succ most =>
      rw [take, next, ofArrivals, gather_of_nil delivers]
      rfl
  | cons note later ih =>
    obtain ⟨most, rfl⟩ := Nat.exists_eq_add_of_le' enough
    have size := length_frame (plain note List.mem_cons_self)
    rw [List.flatMap_cons] at delivers
    obtain ⟨rest, behind, gathered⟩ := @gather_of_le _ _ [] delivers (Nat.zero_le _) (by
      rw [List.nil_append, List.length_append, size]
      exact Nat.le_add_right ..)
    rw [List.nil_append, ← size, List.drop_left] at behind
    rw [List.nil_append, ← size, List.take_left] at gathered
    have read : (ofArrivals arrivals).next none = (.notice note.asRead, ofArrivals rest) := by
      rw [next, ofArrivals, gathered, Receipt.ofFrame,
        decodeNotice_frame (plain note List.mem_cons_self)]
      rfl
    rw [List.length_cons, ← Nat.add_assoc, take, read]
    dsimp only
    rw [ih (fun other member => plain other (List.mem_cons_of_mem _ member)) behind
      (Nat.le_add_left ..)]
    rfl

end Feed

end WatchedStore.Session
