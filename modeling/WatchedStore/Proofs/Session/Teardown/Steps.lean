import WatchedStore.Proofs.Session.Teardown.Order

/-! # What the steps do

Each step of a worker, of a forced disconnect or of anybody else is a change of one of the kinds that
keep the order.
-/

namespace WatchedStore.Session

open WatchedStore.Wire

namespace Workshop

variable {ids : List SinkId} {shop : Workshop} {handle : Handle} {session : Record}

/-- Before it tears its session down a worker may come to any later stage. -/
theorem Orderly.allows (orderly : shop.Orderly ids) {before stage : Stage}
    (here : shop.stage handle = before) (unclearing : before ≠ .clearing)
    (listed : before.listed = true → stage.listed = true)
    (entered : before.entered = true → stage.entered = true) (unended : stage.ended = false) :
    shop.Allows handle stage where
  listed entry member same := by
    obtain ⟨inside, phase, standing, closed⟩ := orderly.listed entry member
    rw [same, here] at inside closed
    refine ⟨listed inside, fun id own there shut => absurd (closed ?_) unclearing⟩
    rw [same, there] at standing
    cases standing
    exact shut
  entered early := entered (here ▸ early)
  fresh id phase there unentered := by
    refine orderly.fresh handle id phase there (Bool.eq_false_iff.mpr fun early => ?_)
    exact absurd ((entered (here ▸ early)).symm.trans unentered) (by decide)
  ended _ _ _ ended := absurd (ended.symm.trans unended) (by decide)
  released _ _ _ released := by
    refine absurd unended ?_
    cases stage <;> first | (cases released; done) | decide

/-- It comes to one of the last stages with a session that is closed and out of the table. -/
theorem Orderly.allows_late {stage : Stage} (entered : stage.entered = true)
    (absent : ∀ entry ∈ shop.board.table, entry.2 ≠ handle)
    (closed : ∀ id phase, shop.board.standing? handle = some (id, phase) → phase = .disconnected)
    (released : ∀ id phase, shop.board.standing? handle = some (id, phase) →
      stage.released = true → ∀ key, ∀ sink ∈ shop.board.hub.store.members key, sink.id ≠ id) :
    shop.Allows handle stage where
  listed entry member same := absurd same (absent entry member)
  entered _ := entered
  fresh _ _ _ unentered := absurd (entered.symm.trans unentered) (by decide)
  ended id phase there _ := closed id phase there
  released := released

/-- A session past its entry in the table is not found there any more. -/
theorem Orderly.absent (orderly : shop.Orderly ids) (unlisted : (shop.stage handle).listed = false) :
    ∀ entry ∈ shop.board.table, entry.2 ≠ handle := by
  rintro entry member rfl
  exact absurd ((orderly.listed entry member).1.symm.trans unlisted) (by decide)

/-- A worker that serves its session reads, and may come to the end of what the client sends. -/
theorem Orderly.transition_serving (orderly : shop.Orderly ids) (session : Record)
    (here : shop.stage handle = .serving) (stopped : Bool) :
    shop.Transition (shop.work handle session stopped) := by
  have keeping : ∀ arrivals, shop.Calm (shop.board.edit handle fun session =>
      { session with arrivals := arrivals }) := by
    intro arrivals
    refine (calm_refl shop).edit ?_ handle
    exact fun _ => ⟨rfl, rfl⟩
  simp only [work, here]
  cases nextRequest stopped session.arrivals with
  | waiting => exact .calm shop.board (calm_refl shop)
  | closed =>
    exact .moved _ (keeping _) handle _
      ((orderly.on (keeping _)).allows here (by decide) (fun _ => rfl) (fun _ => rfl) rfl)
  | failed error =>
    exact .moved _ (keeping _) handle _
      ((orderly.on (keeping _)).allows here (by decide) (fun _ => rfl) (fun _ => rfl) rfl)
  | malformed opcode rest =>
    refine .calm _ (((calm_refl shop).respond handle ⟨opcode, .badRequest⟩).edit ?_ handle)
    exact fun _ => ⟨rfl, rfl⟩
  | request request rest =>
    exact .moved _ (keeping _) handle _
      ((orderly.on (keeping _)).allows here (by decide) (fun _ => rfl) (fun _ => rfl) rfl)

/-- A worker that tears its session down does so step by step. -/
theorem Orderly.transition_leaves (orderly : shop.Orderly ids)
    (present : shop.board.session? handle = some session)
    (leaves : (shop.stage handle).leaves = true) (stopped : Bool) :
    shop.Transition (shop.work handle session stopped) := by
  have standing := Switchboard.standing?_of_present present
  cases here : shop.stage handle with
  | leaving =>
    simp only [work, here]
    split
    · next closed =>
      refine .moved shop.board (calm_refl shop) handle _ (Orderly.allows_late rfl ?_ ?_ ?_)
      · rintro entry member rfl
        obtain ⟨-, phase, there, clearing⟩ := orderly.listed entry member
        obtain ⟨-, rfl⟩ := Prod.mk.inj (Option.some.inj (standing.symm.trans there))
        exact absurd (here.symm.trans (clearing closed)) (by decide)
      · intro id phase there
        cases standing.symm.trans there
        exact closed
      · rintro id phase there ⟨⟩
    · next unclosed => exact .seized handle session present unclosed
  | clearing =>
    simp only [work, here]
    have calm := calm_withdraw shop session.id
    refine .moved _ calm handle _ (Orderly.allows_late rfl ?_ ?_ ?_)
    · rintro entry member rfl
      obtain ⟨inside, away⟩ := List.mem_filter.mp member
      obtain ⟨-, phase, there, -⟩ := orderly.listed entry inside
      obtain ⟨own, -⟩ := Prod.mk.inj (Option.some.inj (standing.symm.trans there))
      exact of_decide_eq_true away own.symm
    · exact fun id phase there => orderly.ended handle id phase there (by rw [here]; rfl)
    · rintro id phase there ⟨⟩
  | releasing =>
    simp only [work, here]
    refine .moved _ (calm_release shop session.id) handle _ (Orderly.allows_late rfl ?_ ?_ ?_)
    · exact orderly.absent (by rw [here]; rfl)
    · exact fun id phase there => orderly.ended handle id phase there (by rw [here]; rfl)
    · intro id phase there _ key sink member
      cases standing.symm.trans there
      change sink ∈ (shop.board.hub.store.unsubscribeAll session.id).2.members key at member
      rw [Store.members_unsubscribeAll] at member
      exact of_decide_eq_true (List.mem_filter.mp member).2
  | closing =>
    simp only [work, here]
    refine .moved _ (calm_abandon shop session.slot) handle _ (Orderly.allows_late rfl ?_ ?_ ?_)
    · exact orderly.absent (by rw [here]; rfl)
    · exact fun id phase there => orderly.ended handle id phase there (by rw [here]; rfl)
    · exact fun id phase there _ => orderly.released handle id phase there (by rw [here]; rfl)
  | waiting | taken | registered | admitted | serving | holding | finished =>
    rw [here] at leaves
    cases leaves

theorem Orderly.transition_work (orderly : shop.Orderly ids)
    (present : shop.board.session? handle = some session) (stopped : Bool) :
    shop.Transition (shop.work handle session stopped) := by
  cases here : shop.stage handle with
  | waiting =>
    simp only [work, here]
    refine .moved shop.board (calm_refl shop) handle _ ?_
    split
    · exact orderly.allows here (by decide) (by rintro ⟨⟩) (by rintro ⟨⟩) rfl
    · exact orderly.allows here (by decide) (by rintro ⟨⟩) (by rintro ⟨⟩) rfl
  | taken =>
    simp only [work, here]
    exact .registered handle session present here
  | registered =>
    simp only [work, here]
    refine .moved shop.board (calm_refl shop) handle _ ?_
    split
    · exact orderly.allows here (by decide) (fun _ => rfl) (fun _ => rfl) rfl
    · exact orderly.allows here (by decide) (fun _ => rfl) (fun _ => rfl) rfl
  | admitted =>
    by_cases connecting : session.phase = .connecting
    · have transition := Transition.activated handle session present connecting
      rw [activate_of_connecting present connecting] at transition
      simp only [work, here, activate_of_connecting present connecting]
      exact transition
    · have refused : shop.board.activate handle =
          (.error (.channelClosed (.beforeActivation session.id)), shop.board) := by
        unfold Switchboard.activate
        rw [present]
        exact if_neg connecting
      simp only [work, here, refused]
      exact .moved shop.board (calm_refl shop) handle _
        (orderly.allows here (by decide) (fun _ => rfl) (fun _ => rfl) rfl)
  | serving => exact orderly.transition_serving session here stopped
  | holding request =>
    simp only [work, here]
    have calm := orderly.calm_apply present here
    refine .moved _ calm handle _ ?_
    split
    · exact (orderly.on calm).allows here (by rintro ⟨⟩) (fun _ => rfl) (fun _ => rfl) rfl
    · exact (orderly.on calm).allows here (by rintro ⟨⟩) (fun _ => rfl) (fun _ => rfl) rfl
  | leaving | clearing | releasing | closing =>
    exact orderly.transition_leaves present (by rw [here]; rfl) stopped
  | finished =>
    simp only [work, here]
    exact .calm shop.board (calm_refl shop)

theorem Orderly.transition_advance (orderly : shop.Orderly ids) {number : Nat} {sweep : Sweep}
    (found : shop.sweeps[number]? = some sweep) {rest : List Handle}
    (remaining : sweep.rest = handle :: rest) :
    shop.Transition (shop.advance number sweep handle rest) := by
  unfold advance
  cases present : shop.board.session? handle with
  | none =>
    have between : sweep.stage = .next := by
      by_contra busy
      obtain ⟨other, others, id, same, there⟩ :=
        orderly.caught sweep (List.mem_of_getElem? found) busy
      obtain ⟨rfl, -⟩ := List.cons.inj (remaining.symm.trans same)
      rw [Switchboard.standing?, present] at there
      cases there
    have passed := Transition.passed number sweep handle rest found remaining between
    rw [between] at passed
    refine passed fun id phase there => ?_
    rw [Switchboard.standing?, present] at there
    cases there
  | some session =>
    have standing := Switchboard.standing?_of_present present
    dsimp only
    split
    · next between =>
      split
      · next closed =>
        refine .passed number sweep handle rest found remaining between fun id phase there => ?_
        cases standing.symm.trans there
        exact closed
      · next unclosed =>
        exact .caught number sweep handle rest found remaining between session present unclosed
    · next clearing =>
      exact .withdrew number sweep handle rest found remaining clearing session present
    · next releasing =>
      exact .released number sweep handle rest found remaining releasing session present

/-- Every step does one of the things that a step can do. -/
theorem Orderly.transition_step (orderly : shop.Orderly ids) {event : WorkshopEvent}
    (foreign : event.IsForeign ids) : shop.Transition (shop.step event) := by
  cases event with
  | work handle stopped =>
    unfold step
    dsimp only
    cases present : shop.board.session? handle with
    | none => exact .calm shop.board (calm_refl shop)
    | some session => exact orderly.transition_work present stopped
  | leave handle =>
    unfold step
    dsimp only
    split
    · next here =>
      exact .moved shop.board (calm_refl shop) handle _
        (orderly.allows here (by decide) (fun _ => rfl) (fun _ => rfl) rfl)
    · exact .calm shop.board (calm_refl shop)
  | arrive handle arrivals =>
    refine .calm _ ((calm_refl shop).edit ?_ handle)
    exact fun _ => ⟨rfl, rfl⟩
  | drain => exact .drained
  | advance number =>
    unfold step
    dsimp only
    cases found : shop.sweeps[number]? with
    | none => exact .calm shop.board (calm_refl shop)
    | some sweep =>
      dsimp only
      split
      · exact .calm shop.board (calm_refl shop)
      · next handle rest remaining => exact orderly.transition_advance found remaining
  | stop => exact .calm _ ⟨fun _ => rfl, fun _ member => member, id, fun _ _ _ => .inl⟩
  | call call =>
    refine .calm _ (calm_call shop ?_)
    rintro key sink rfl handle phase there
    exact absurd (orderly.known handle sink.id phase there) foreign

end Workshop

end WatchedStore.Session
