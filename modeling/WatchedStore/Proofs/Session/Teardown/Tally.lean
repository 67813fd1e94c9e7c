import WatchedStore.Proofs.Session.Teardown.Order

/-! # What forced disconnects answer for

A session moves through its states in one direction only. So a session that a forced disconnect has
found closed stays closed, and the log tells for each forced disconnect which of its sessions it has
closed itself.
-/

namespace WatchedStore.Session

namespace Workshop

variable {ids : List SinkId} {shop : Workshop} {handle : Handle} {session : Record}

/-- A step leaves a session as it is or leads it to a state that may follow. -/
theorem Transition.standings {next : Workshop} (transition : shop.Transition next)
    (other : Handle) : next.board.standing? other = shop.board.standing? other ∨
      ∃ id before later, shop.board.standing? other = some (id, before) ∧
        next.board.standing? other = some (id, later) ∧ before.Leads later := by
  have touched : ∀ (handle : Handle) (session : Record) (later : Phase) (board : Switchboard),
      shop.board.session? handle = some session → session.phase.Leads later →
      (∀ other, board.standing? other =
        if other = handle then some (session.id, later) else shop.board.standing? other) →
      board.standing? other = shop.board.standing? other ∨
        ∃ id before later, shop.board.standing? other = some (id, before) ∧
          board.standing? other = some (id, later) ∧ before.Leads later := by
    intro handle session later board present leads standings
    rw [standings]
    split
    · next same =>
      exact .inr ⟨session.id, session.phase, later,
        same ▸ Switchboard.standing?_of_present present, rfl, leads⟩
    · exact .inl rfl
  cases transition with
  | calm board calm => exact .inl (calm.standing other)
  | moved board calm => exact .inl (calm.standing other)
  | registered handle session present =>
    refine .inl ?_
    change (shop.board.register handle).standing? other = _
    unfold Switchboard.register
    rw [present]
    rfl
  | activated handle session present connecting =>
    exact touched handle session .active _ present (connecting ▸ .activates)
      (standing?_activate present connecting)
  | seized handle session present =>
    exact touched handle session _ _ present (.disconnects _) (standing?_seize present)
  | drained => exact .inl rfl
  | passed => exact .inl rfl
  | caught number sweep handle rest found remaining between session present =>
    exact touched handle session _ _ present (.disconnects _) (standing?_seize present)
  | withdrew => exact .inl rfl
  | released => exact .inl rfl

theorem Transition.leads {next : Workshop} (transition : shop.Transition next) (other : Handle) :
    (shop.board.phase other).Leads (next.board.phase other) := by
  rw [Switchboard.phase_eq, Switchboard.phase_eq]
  rcases transition.standings other with same | ⟨id, before, later, there, then_, leads⟩
  · rw [same]
    exact .stays _
  · rw [there, then_]
    exact leads

/-- A session that is closed stays so. -/
theorem Transition.closed {next : Workshop} (transition : shop.Transition next) {other : Handle}
    (closed : shop.board.phase other = .disconnected) : next.board.phase other = .disconnected :=
  (closed ▸ transition.leads other).of_disconnected

/-- The session that a forced disconnect has closed and not done. -/
def current (sweep : Sweep) : List Handle :=
  if sweep.stage = .next then [] else sweep.rest.take 1

/-- The sessions that a forced disconnect has closed according to the log. -/
def closedBy (shop : Workshop) (number : Nat) : List Handle :=
  (shop.log.filter fun entry => entry.2 = .sweep number).map Prod.fst

/-- Each forced disconnect has closed what the log says, and is done with closed sessions only. -/
structure Tallied (shop : Workshop) : Prop where
  begun : ∀ entry ∈ shop.log, ∀ number, entry.2 = .sweep number → number < shop.sweeps.length
  tally : ∀ number sweep, shop.sweeps[number]? = some sweep →
    shop.closedBy number = sweep.closed ++ current sweep
  done : ∀ sweep ∈ shop.sweeps, ∃ done, sweep.targets = done ++ sweep.rest ∧
    sweep.closed.Sublist done ∧ ∀ handle ∈ done, shop.board.phase handle = .disconnected

theorem tallied_start (board : Switchboard) : (start board).Tallied := ⟨nofun, nofun, nofun⟩

/-- A step that begins and advances no forced disconnect. -/
theorem Tallied.of_same {next : Workshop} (tallied : shop.Tallied)
    (transition : shop.Transition next) (sweeps : next.sweeps = shop.sweeps)
    (log : ∃ more : List (Handle × Closer), next.log = shop.log ++ more ∧
      ∀ entry ∈ more, entry.2 = .worker) : next.Tallied := by
  obtain ⟨more, log, workers⟩ := log
  refine ⟨?_, ?_, ?_⟩
  · intro entry member number swept
    rw [log] at member
    rw [sweeps]
    rcases List.mem_append.mp member with old | new
    · exact tallied.begun entry old number swept
    · cases (workers entry new).symm.trans swept
  · intro number sweep found
    have none : more.filter (fun entry => entry.2 = .sweep number) = [] := by
      refine List.filter_eq_nil_iff.mpr fun entry member => ?_
      rw [workers entry member]
      simp only [reduceCtorEq, decide_false, Bool.false_eq_true, not_false_eq_true]
    rw [closedBy, log, List.filter_append, none, List.append_nil]
    exact tallied.tally number sweep (sweeps ▸ found)
  · intro sweep member
    obtain ⟨done, split, closed, shut⟩ := tallied.done sweep (sweeps ▸ member)
    exact ⟨done, split, closed, fun handle inside => transition.closed (shut handle inside)⟩

/-- A step of one forced disconnect. -/
theorem Tallied.setSweep {next : Workshop} (tallied : shop.Tallied)
    (transition : shop.Transition next) {number : Nat} {sweep later : Sweep}
    (found : shop.sweeps[number]? = some sweep)
    (sweeps : next.sweeps = shop.sweeps.set number later) {more : List (Handle × Closer)}
    (log : next.log = shop.log ++ more) (own : ∀ entry ∈ more, entry.2 = .sweep number)
    (counts : sweep.closed ++ current sweep ++ more.map Prod.fst = later.closed ++ current later)
    (done : ∀ done, sweep.targets = done ++ sweep.rest → sweep.closed.Sublist done →
      (∀ handle ∈ done, shop.board.phase handle = .disconnected) →
      ∃ done, later.targets = done ++ later.rest ∧ later.closed.Sublist done ∧
        ∀ handle ∈ done, next.board.phase handle = .disconnected) : next.Tallied := by
  have inside := (List.getElem?_eq_some_iff.mp found).1
  refine ⟨?_, ?_, ?_⟩
  · intro entry member other swept
    rw [log] at member
    rw [sweeps, List.length_set]
    rcases List.mem_append.mp member with old | new
    · exact tallied.begun entry old other swept
    · cases (own entry new).symm.trans swept
      exact inside
  · intro other held there
    rw [closedBy, log, List.filter_append, List.map_append]
    rw [sweeps] at there
    by_cases same : number = other
    · subst same
      rw [List.getElem?_set_self inside] at there
      cases there
      have all : more.filter (fun entry => entry.2 = .sweep number) = more :=
        List.filter_eq_self.mpr fun entry member => decide_eq_true (own entry member)
      rw [all, ← counts, ← tallied.tally number sweep found, closedBy]
    · rw [List.getElem?_set_ne same] at there
      have none : more.filter (fun entry => entry.2 = .sweep other) = [] := by
        refine List.filter_eq_nil_iff.mpr fun entry member => ?_
        rw [own entry member]
        simpa using same
      rw [none, List.map_nil, List.append_nil]
      exact tallied.tally other held there
  · intro held member
    rcases List.mem_or_eq_of_mem_set (sweeps ▸ member) with old | rfl
    · obtain ⟨before, split, closed, shut⟩ := tallied.done held old
      exact ⟨before, split, closed, fun handle listed => transition.closed (shut handle listed)⟩
    · obtain ⟨before, split, closed, shut⟩ := tallied.done sweep (List.mem_of_getElem? found)
      exact done before split closed shut

theorem Tallied.drain (tallied : shop.Tallied) : (shop.step .drain).Tallied := by
  let targets := shop.board.table.map Prod.snd
  have sweeps : (shop.step .drain).sweeps = shop.sweeps ++ [⟨targets, targets, .next, []⟩] := rfl
  refine ⟨?_, ?_, ?_⟩
  · intro entry member number swept
    rw [sweeps, List.length_append]
    exact Nat.lt_add_right _ (tallied.begun entry member number swept)
  · intro number sweep found
    rw [sweeps] at found
    rcases Nat.lt_or_ge number shop.sweeps.length with old | new
    · rw [List.getElem?_append_left old] at found
      exact tallied.tally number sweep found
    · rw [List.getElem?_append_right new, List.getElem?_singleton] at found
      split at found
      · cases found
        have none : shop.log.filter (fun entry => entry.2 = .sweep number) = [] := by
          refine List.filter_eq_nil_iff.mpr fun entry member swept => ?_
          have begun := tallied.begun entry member number (of_decide_eq_true swept)
          omega
        exact congrArg (List.map Prod.fst) none
      · cases found
  · intro sweep member
    rcases List.mem_append.mp member with old | new
    · exact tallied.done sweep old
    · rw [List.mem_singleton.mp new]
      exact ⟨[], rfl, List.Sublist.refl _, nofun⟩

theorem Tallied.transition (tallied : shop.Tallied) (orderly : shop.Orderly ids) {next : Workshop}
    (transition : shop.Transition next) : next.Tallied := by
  have step := transition
  cases transition with
  | calm | moved | registered | activated =>
    exact tallied.of_same step rfl ⟨[], (List.append_nil _).symm, nofun⟩
  | seized handle =>
    refine tallied.of_same step rfl ⟨[(handle, .worker)], rfl, fun entry member => ?_⟩
    rw [List.mem_singleton.mp member]
  | drained => exact tallied.drain
  | passed number sweep handle rest found remaining between closed =>
    refine tallied.setSweep step found rfl (List.append_nil _).symm nofun ?_ ?_
    · simp only [current, between, ↓reduceIte, List.map_nil, List.append_nil]
    · intro done split sublist shut
      refine ⟨done ++ [handle], by rw [split, remaining, List.append_cons],
        sublist.trans (List.sublist_append_left _ _), fun other member => ?_⟩
      rcases List.mem_append.mp member with old | new
      · exact step.closed (shut other old)
      · rw [List.mem_singleton.mp new]
        refine step.closed ?_
        rw [Switchboard.phase_eq]
        cases there : shop.board.standing? handle with
        | none => rfl
        | some standing => exact closed standing.1 standing.2 there
  | caught number sweep handle rest found remaining between =>
    refine tallied.setSweep step found rfl rfl (fun entry member => ?_) ?_ ?_
    · rw [List.mem_singleton.mp member]
    · simp only [current, between, remaining, ↓reduceIte, List.append_nil, List.map_cons,
        List.map_nil, reduceCtorEq, List.take_succ_cons, List.take_zero]
    · exact fun done split sublist shut =>
        ⟨done, split, sublist, fun other member => step.closed (shut other member)⟩
  | withdrew number sweep handle rest found remaining clearing =>
    refine tallied.setSweep step found rfl (List.append_nil _).symm nofun ?_ ?_
    · simp only [current, clearing, reduceCtorEq, ↓reduceIte, List.map_nil, List.append_nil]
    · exact fun done split sublist shut =>
        ⟨done, split, sublist, fun other member => step.closed (shut other member)⟩
  | released number sweep handle rest found remaining releasing =>
    refine tallied.setSweep step found rfl (List.append_nil _).symm nofun ?_ ?_
    · simp only [current, releasing, remaining, reduceCtorEq, ↓reduceIte, List.map_nil,
        List.append_nil, List.take_succ_cons, List.take_zero]
    · intro done split sublist shut
      refine ⟨done ++ [handle], by rw [split, remaining, List.append_cons],
        sublist.append (List.Sublist.refl _), fun other member => ?_⟩
      rcases List.mem_append.mp member with old | new
      · exact step.closed (shut other old)
      · obtain ⟨first, others, id, same, there⟩ :=
          orderly.caught sweep (List.mem_of_getElem? found) (by rw [releasing]; decide)
        obtain ⟨rfl, -⟩ := List.cons.inj (remaining.symm.trans same)
        rw [List.mem_singleton.mp new]
        exact step.closed (Switchboard.phase_of_standing there)

end Workshop

end WatchedStore.Session
