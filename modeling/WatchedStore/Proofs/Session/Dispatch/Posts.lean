import WatchedStore.Proofs.Session.Dispatch.Places

/-! # How far the sessions are

How far anybody is with a session fits the place where it is. Nobody has begun with a session that waits;
one that the accept loop keeps for itself is torn down and was never entered in the table; and one that
a forced disconnect can reach has been taken by a worker.
-/

namespace WatchedStore.Session

namespace Dispatch

/-- A stage that a session may have where it is. -/
structure Fits (dispatch : Dispatch) (handle : Handle) (stage : Stage) : Prop where
  waits : handle ∉ dispatch.those .received ∨ handle ∈ dispatch.door.held ∨
    handle ∈ dispatch.buffer → stage = .waiting
  leaves : handle ∈ dispatch.door.torn → stage.leaves = true
  busy : handle ∈ dispatch.crew → handle ∈ dispatch.those .taken ∧ stage ≠ .finished
  finished : handle ∈ dispatch.those .finished → stage = .finished
  aside : handle ∉ dispatch.those .taken → stage.aside = true
  answered : handle ∈ dispatch.those .acknowledged →
    handle ∈ dispatch.those .taken ∧ stage.answered = true

/-- The sessions are where they should be, and as far as they should be there. -/
structure Steady (ids : List SinkId) (dispatch : Dispatch) : Prop where
  kept : dispatch.Kept
  orderly : dispatch.shop.Orderly ids
  fits : ∀ handle, dispatch.Fits handle (dispatch.shop.stage handle)
  reached : ∀ handle, dispatch.shop.Reaches handle → handle ∈ dispatch.those .taken
  present : ∀ handle ∈ dispatch.those .received, dispatch.shop.board.session? handle ≠ none
  acknowledged : (dispatch.those .acknowledged).Nodup

variable {ids : List SinkId} {dispatch next : Dispatch} {handle : Handle} {stage : Stage}

/-- What fits goes on to do so where a session is in no new place. -/
theorem Fits.mono (fits : dispatch.Fits handle stage)
    (waits : handle ∉ next.those .received ∨ handle ∈ next.door.held ∨ handle ∈ next.buffer →
      handle ∉ dispatch.those .received ∨ handle ∈ dispatch.door.held ∨ handle ∈ dispatch.buffer)
    (torn : handle ∈ next.door.torn → handle ∈ dispatch.door.torn)
    (crew : handle ∈ next.crew → handle ∈ dispatch.crew)
    (taken : handle ∈ dispatch.those .taken → handle ∈ next.those .taken)
    (finished : handle ∈ next.those .finished → handle ∈ dispatch.those .finished)
    (acknowledged : handle ∈ next.those .acknowledged → handle ∈ dispatch.those .acknowledged) :
    next.Fits handle stage where
  waits := fits.waits ∘ waits
  leaves := fits.leaves ∘ torn
  busy member := (fits.busy (crew member)).imp_left taken
  finished := fits.finished ∘ finished
  aside apart := fits.aside fun member => apart (taken member)
  answered member := (fits.answered (acknowledged member)).imp_left taken

/-- What is left to show of a step that changes the sessions by one of the changes that keep order. -/
theorem Steady.of_transition (steady : Steady ids dispatch) (kept : next.Kept)
    (transition : dispatch.shop.Transition next.shop)
    (fits : ∀ handle, next.Fits handle (next.shop.stage handle))
    (taken : ∀ handle ∈ dispatch.those .taken, handle ∈ next.those .taken)
    (received : ∀ handle ∈ next.those .received, dispatch.shop.board.session? handle ≠ none)
    (acknowledged : (next.those .acknowledged).Nodup) : Steady ids next where
  kept := kept
  orderly := steady.orderly.transition transition
  fits := fits
  reached handle reached := by
    refine taken handle ?_
    rcases transition.reaches reached with before | entering
    · exact steady.reached handle before
    · by_contra untaken
      have aside := (steady.fits handle).aside untaken
      rw [entering] at aside
      cases aside
  present handle member := transition.session?_ne_none (received handle member)
  acknowledged := acknowledged

/-- Steps that move no session and bring nobody further with one. -/
theorem Steady.go (steady : Steady ids dispatch) {shop : Workshop} {door : Door} {asked : Bool}
    (kept : Kept { dispatch with shop := shop, door := door, asked := asked })
    (transition : dispatch.shop.Transition shop) (stages : shop.stage = dispatch.shop.stage)
    (held : door.held = dispatch.door.held) (torn : door.torn = dispatch.door.torn) :
    Steady ids { dispatch with shop := shop, door := door, asked := asked } := by
  refine steady.of_transition kept transition (fun handle => ?_) (fun _ member => member)
    steady.present steady.acknowledged
  dsimp only
  rw [stages]
  refine (steady.fits handle).mono ?_ ?_ id id id id
  · dsimp only
    rw [held]
    exact id
  · dsimp only
    rw [torn]
    exact id

/-- A session with which nobody has begun may be torn down. -/
theorem Steady.transition_dismiss (steady : Steady ids dispatch)
    (waiting : dispatch.shop.stage handle = .waiting) :
    dispatch.shop.Transition (dispatch.shop.move handle .leaving) :=
  .moved dispatch.shop.board (Workshop.calm_refl _) handle _
    (steady.orderly.allows waiting (by decide) (by rintro ⟨⟩) (by rintro ⟨⟩) rfl)

/-- The accept loop, with empty hands, receives a session that it has not received before. -/
theorem Steady.receive (steady : Steady ids dispatch) {door : Door}
    (kept : ((dispatch.note handle .received).go door).Kept)
    (new : handle ∉ dispatch.those .received)
    (present : dispatch.shop.board.session? handle ≠ none)
    (free : dispatch.door.held = [] ∧ dispatch.door.torn = [])
    (hands : door.held = [handle] ∧ door.torn = []) :
    Steady ids ((dispatch.note handle .received).go door) := by
  refine steady.of_transition kept (Workshop.transition_refl _) (fun other => ?_) ?_ ?_ ?_
  · refine (steady.fits other).mono ?_ ?_ id ?_ ?_ ?_
    · by_cases own : other = handle
      · exact fun _ => .inl (own ▸ new)
      · simp [those, note, Dispatch.go, Deed.entries_concat, hands, free, own]
    · simp [Dispatch.go, hands]
    all_goals simp [those, note, Dispatch.go, Deed.entries_concat]
  · simp [those, note, Dispatch.go, Deed.entries_concat]
  · simp only [those, note, Dispatch.go, Deed.entries_concat, ↓reduceIte, List.mem_append,
      List.mem_singleton]
    rintro other (old | rfl)
    · exact steady.present other old
    · exact present
  · simpa [those, note, Dispatch.go, Deed.entries_concat] using steady.acknowledged

/-- The accept loop begins to tear down the session in its hands. -/
theorem Steady.dismiss (steady : Steady ids dispatch) {door : Door}
    (kept : (dispatch.dismiss handle door).Kept)
    (hands : dispatch.door.held = [handle] ∧ dispatch.door.torn = [])
    (torn : door.held = [] ∧ door.torn = [handle]) : Steady ids (dispatch.dismiss handle door) := by
  have fits := steady.fits handle
  have waiting := fits.waits (.inr (.inl (by rw [hands.1]; exact List.mem_singleton_self _)))
  have single := steady.kept.count_places_le handle
  simp only [hands, List.count_singleton_self] at single
  have received : handle ∈ dispatch.those .received := by
    refine steady.kept.received_of_mem ?_
    simp [Dispatch.places, hands]
  refine steady.of_transition kept (steady.transition_dismiss waiting) (fun other => ?_)
    (fun _ member => member) steady.present steady.acknowledged
  by_cases own : other = handle
  · subst own
    change Fits _ _ ((dispatch.shop.move other .leaving).stage other)
    rw [Workshop.stage_move]
    constructor
    case waits =>
      rintro (unknown | held | queued)
      · exact absurd received unknown
      · simp [Dispatch.dismiss, torn] at held
      · have := List.count_pos_iff.mpr (show other ∈ dispatch.buffer from queued)
        omega
    case leaves => exact fun _ => rfl
    case busy => exact fun member => ⟨(fits.busy member).1, by decide⟩
    case finished =>
      intro member
      have := waiting.symm.trans (fits.finished member)
      cases this
    case aside => exact fun _ => rfl
    case answered => exact fun answered => ⟨(fits.answered answered).1, rfl⟩
  · change Fits _ _ ((dispatch.shop.move handle .leaving).stage other)
    rw [Workshop.stage_move_of_ne own]
    refine (steady.fits other).mono ?_ ?_ id id id id
    · simp only [Dispatch.dismiss, torn, List.not_mem_nil, false_or]
      exact Or.imp_right .inr
    · simp [Dispatch.dismiss, torn, own]

theorem Steady.submit (steady : Steady ids dispatch)
    (kept : Kept { (dispatch.note handle .submitted).go .accepting with
      buffer := dispatch.buffer ++ [handle] }) (door : dispatch.door = .holding handle) :
    Steady ids { (dispatch.note handle .submitted).go .accepting with
      buffer := dispatch.buffer ++ [handle] } := by
  refine steady.of_transition kept (Workshop.transition_refl _) (fun other => ?_) ?_ ?_ ?_
  · refine (steady.fits other).mono ?_ nofun id ?_ ?_ ?_
    · simp only [those, note, Dispatch.go, Deed.entries_concat, door, Door.held, reduceCtorEq,
        ↓reduceIte, List.append_nil, List.not_mem_nil, false_or, List.mem_append, List.mem_singleton]
      tauto
    all_goals simp [those, note, Dispatch.go, Deed.entries_concat]
  · simp [those, note, Dispatch.go, Deed.entries_concat]
  · simpa [those, note, Dispatch.go, Deed.entries_concat] using steady.present
  · simpa [those, note, Dispatch.go, Deed.entries_concat] using steady.acknowledged

/-- A worker has taken the session and does nothing with it yet. -/
theorem Steady.take (steady : Steady ids dispatch) {rest : List Handle}
    (kept : Kept { dispatch.note handle .taken with
      buffer := rest, crew := dispatch.crew ++ [handle] })
    (waiting : dispatch.buffer = handle :: rest) :
    Steady ids { dispatch.note handle .taken with
      buffer := rest, crew := dispatch.crew ++ [handle] } := by
  refine steady.of_transition kept (Workshop.transition_refl _) (fun other => ?_) ?_ ?_ ?_
  · have fits := steady.fits other
    constructor
    case waits =>
      intro place
      refine fits.waits ?_
      simp only [those, note, Deed.entries_concat, reduceCtorEq, ↓reduceIte, List.append_nil] at place
      rw [waiting, List.mem_cons]
      tauto
    case leaves => exact fits.leaves
    case busy =>
      simp only [those, note, Deed.entries_concat, ↓reduceIte, List.mem_append, List.mem_singleton]
      rintro (old | rfl)
      · exact (fits.busy old).imp_left .inl
      · rw [fits.waits (.inr (.inr (waiting ▸ List.mem_cons_self)))]
        exact ⟨.inr rfl, by decide⟩
    case finished => simpa [those, note, Deed.entries_concat] using fits.finished
    case aside =>
      simp only [those, note, Deed.entries_concat, ↓reduceIte, List.mem_append, not_or]
      exact fun untaken => fits.aside untaken.1
    case answered =>
      simp only [those, note, Deed.entries_concat, reduceCtorEq, ↓reduceIte, List.append_nil]
      exact fun answered => (fits.answered answered).imp_left (List.mem_append_left _)
  · simp only [those, note, Deed.entries_concat, ↓reduceIte]
    exact fun other member => List.mem_append_left _ member
  · simpa [those, note, Deed.entries_concat] using steady.present
  · simpa [those, note, Deed.entries_concat] using steady.acknowledged

/-- The sessions that the accept loop or a worker has begun with are received. -/
theorem Steady.leads (steady : Steady ids dispatch) (received : handle ∈ dispatch.those .received)
    (stopped : Bool) :
    (dispatch.shop.stage handle).Leads dispatch.shop.board.stopping
      ((dispatch.on (.work handle stopped)).shop.stage handle) := by
  obtain ⟨session, present⟩ := Option.ne_none_iff_exists'.mp (steady.present handle received)
  have work := Workshop.step_work present stopped
  simp only [Dispatch.on, work]
  exact dispatch.shop.leads_work handle session stopped

theorem Steady.transition_work (steady : Steady ids dispatch) (handle : Handle) (stopped : Bool) :
    dispatch.shop.Transition (dispatch.on (.work handle stopped)).shop :=
  @Workshop.Orderly.transition_step _ _ steady.orderly (.work handle stopped) trivial

/-- Whoever has a session in hand goes on with it and does not finish it. -/
theorem Steady.attend (steady : Steady ids dispatch)
    (mine : handle ∈ dispatch.door.torn ∨ handle ∈ dispatch.crew) {shop : Workshop}
    (transition : dispatch.shop.Transition shop)
    (others : ∀ other ≠ handle, shop.stage other = dispatch.shop.stage other) {stopping : Bool}
    (leads : (dispatch.shop.stage handle).Leads stopping (shop.stage handle))
    (unfinished : shop.stage handle ≠ .finished) : Steady ids { dispatch with shop := shop } := by
  obtain ⟨received, unheld, unqueued, -⟩ := steady.kept.nowhere_else mine
  have fits := steady.fits handle
  have kept := steady.kept.go shop dispatch.asked rfl rfl steady.kept.joined
  refine steady.of_transition kept transition (fun other => ?_) (fun _ member => member)
    steady.present steady.acknowledged
  dsimp only
  by_cases own : other = handle
  · subst own
    constructor
    case waits =>
      exact fun place => (place.elim (absurd received) (Or.elim · (absurd · unheld)
        (absurd · unqueued)))
    case leaves => exact fun torn => leads.leaves (fits.leaves torn) unfinished
    case busy => exact fun crew => ⟨(fits.busy crew).1, unfinished⟩
    case finished =>
      intro done
      have before := fits.finished done
      rcases mine with torn | crew
      · have leaves := fits.leaves torn
        rw [before] at leaves
        cases leaves
      · exact absurd before (fits.busy crew).2
    case aside =>
      intro untaken
      rcases mine with torn | crew
      · exact Stage.aside_of_leaves (leads.leaves (fits.leaves torn) unfinished)
      · exact absurd (fits.busy crew).1 untaken
    case answered => exact fun answered => (fits.answered answered).imp_right leads.answered
  · rw [others other own]
    exact (steady.fits other).mono id id id id id id

theorem Steady.attend_work (steady : Steady ids dispatch)
    (mine : handle ∈ dispatch.door.torn ∨ handle ∈ dispatch.crew) (stopped : Bool)
    (unfinished : (dispatch.on (.work handle stopped)).shop.stage handle ≠ .finished) :
    Steady ids (dispatch.on (.work handle stopped)) :=
  steady.attend mine (steady.transition_work handle stopped)
    (fun _ apart => dispatch.shop.stage_step_work_of_ne apart stopped)
    (steady.leads (steady.kept.nowhere_else mine).1 stopped) unfinished

/-- The last of these steps. -/
theorem Steady.finish (steady : Steady ids dispatch)
    (mine : handle ∈ dispatch.door.torn ∨ handle ∈ dispatch.crew) {stopped : Bool}
    (finished : (dispatch.on (.work handle stopped)).shop.stage handle = .finished) {door : Door}
    {crew : List Handle}
    (kept : Kept { (dispatch.on (.work handle stopped)).note handle .finished with
      door := door, crew := crew })
    (held : door.held = dispatch.door.held)
    (torn : ∀ other ∈ door.torn, other ∈ dispatch.door.torn ∧ other ≠ handle)
    (fewer : ∀ other ∈ crew, other ∈ dispatch.crew ∧ other ≠ handle) :
    Steady ids { (dispatch.on (.work handle stopped)).note handle .finished with
      door := door, crew := crew } := by
  obtain ⟨received, unheld, unqueued, -⟩ := steady.kept.nowhere_else mine
  refine steady.of_transition kept (steady.transition_work handle stopped) (fun other => ?_) ?_ ?_ ?_
  · by_cases own : other = handle
    · subst own
      change Fits _ _ ((dispatch.on (.work other stopped)).shop.stage other)
      rw [finished]
      constructor
      case waits =>
        refine fun place => absurd place ?_
        simp only [those, note, Deed.entries_concat, Dispatch.on, reduceCtorEq, ↓reduceIte,
          List.append_nil, held]
        exact fun place => place.elim (absurd received) (Or.elim · unheld unqueued)
      case leaves => exact fun again => absurd rfl (torn other again).2
      case busy => exact fun again => absurd rfl (fewer other again).2
      case finished => exact fun _ => rfl
      case aside => exact fun _ => rfl
      case answered =>
        simp only [those, note, Deed.entries_concat, reduceCtorEq, ↓reduceIte, List.append_nil]
        exact fun answered => ⟨((steady.fits other).answered answered).1, rfl⟩
    · have still := dispatch.shop.stage_step_work_of_ne own stopped
      have fits := steady.fits other
      rw [← still] at fits
      refine fits.mono ?_ (fun again => (torn other again).1) (fun again => (fewer other again).1)
        ?_ ?_ ?_
      · simp [those, note, Deed.entries_concat, Dispatch.on, held]
      all_goals simp [those, note, Deed.entries_concat, Dispatch.on, own]
  · simp [those, note, Deed.entries_concat, Dispatch.on]
  · simpa [those, note, Deed.entries_concat, Dispatch.on] using steady.present
  · simpa [those, note, Deed.entries_concat, Dispatch.on] using steady.acknowledged

/-- The accept loop goes on tearing a session down. -/
theorem Steady.tear (steady : Steady ids dispatch) {door : Door}
    (kept : (dispatch.tear handle door).Kept)
    (hands : dispatch.door.held = [] ∧ dispatch.door.torn = [handle])
    (free : door.held = [] ∧ door.torn = []) : Steady ids (dispatch.tear handle door) := by
  have mine : handle ∈ dispatch.door.torn := by
    rw [hands.2]
    exact List.mem_singleton_self _
  unfold Dispatch.tear at kept ⊢
  dsimp only at kept ⊢
  split
  · next finished =>
    rw [if_pos finished] at kept
    refine steady.finish (.inl mine) finished kept (free.1.trans hands.1.symm) ?_ ?_
    · rw [free.2]
      exact nofun
    · refine fun other crew => ⟨crew, ?_⟩
      rintro rfl
      exact (steady.kept.nowhere_else (.inl mine)).2.2.2 mine crew
  · next unfinished => exact steady.attend_work (.inl mine) true unfinished

/-- The answer to CONNECT is written down once. -/
theorem Steady.acknowledge (steady : Steady ids dispatch)
    (new : handle ∉ dispatch.those .acknowledged) (taken : handle ∈ dispatch.those .taken)
    (answered : (dispatch.shop.stage handle).answered = true) :
    Steady ids (dispatch.note handle .acknowledged) := by
  refine steady.of_transition (steady.kept.note_acknowledged handle) (Workshop.transition_refl _)
    (fun other => ?_) ?_ ?_ ?_
  · have fits := steady.fits other
    constructor
    case waits => simpa [those, note, Deed.entries_concat] using fits.waits
    case leaves => exact fits.leaves
    case busy => simpa [those, note, Deed.entries_concat] using fits.busy
    case finished => simpa [those, note, Deed.entries_concat] using fits.finished
    case aside => simpa [those, note, Deed.entries_concat] using fits.aside
    case answered =>
      simp only [those, note, Deed.entries_concat, reduceCtorEq, ↓reduceIte, List.append_nil,
        List.mem_append, List.mem_singleton]
      rintro (old | rfl)
      · exact fits.answered old
      · exact ⟨taken, answered⟩
  · simp [those_note]
  · simpa [those_note] using steady.present
  · rw [those_note, if_pos rfl, ← List.concat_eq_append]
    exact steady.acknowledged.concat new

/-- A worker goes on with its session. -/
theorem Steady.work (steady : Steady ids dispatch) {stopped : Bool}
    (kept : (dispatch.work handle stopped).Kept) (mine : handle ∈ dispatch.crew) :
    Steady ids (dispatch.work handle stopped) := by
  have fits := steady.fits handle
  unfold Dispatch.work at kept ⊢
  dsimp only at kept ⊢
  split
  · next acknowledges =>
    obtain ⟨admitted, serving⟩ := acknowledges
    refine (steady.attend_work (.inr mine) stopped (by rw [serving]; nofun)).acknowledge ?_
      (fits.busy mine).1 ?_
    · intro old
      have answered := (fits.answered old).2
      rw [admitted] at answered
      cases answered
    · rw [serving]
      rfl
  · next other =>
    rw [if_neg other] at kept
    split
    · next finished =>
      rw [if_pos finished] at kept
      refine steady.finish (.inr mine) finished kept rfl (fun other torn => ⟨torn, ?_⟩) ?_
      · rintro rfl
        exact (steady.kept.nowhere_else (.inr mine)).2.2.2 torn mine
      · exact fun other crew =>
          ⟨List.mem_of_mem_filter crew, of_decide_eq_true (List.mem_filter.mp crew).2⟩
    · next unfinished => exact steady.attend_work (.inr mine) stopped unfinished

/-- A worker gives up between two requests. -/
theorem Steady.leave (steady : Steady ids dispatch) (mine : handle ∈ dispatch.crew)
    (serving : dispatch.shop.stage handle = .serving) :
    Steady ids (dispatch.on (.leave handle)) := by
  have left : dispatch.shop.step (.leave handle) = dispatch.shop.move handle .leaving :=
    if_pos serving
  have transition := @Workshop.Orderly.transition_step _ _ steady.orderly (.leave handle) trivial
  unfold Dispatch.on
  rw [left] at transition ⊢
  have leads : (dispatch.shop.stage handle).Leads dispatch.shop.board.stopping
      ((dispatch.shop.move handle .leaving).stage handle) := by
    rw [serving, Workshop.stage_move]
    exact .ends
  refine steady.attend (.inr mine) transition
    (fun other apart => Workshop.stage_move_of_ne apart _ _) leads ?_
  rw [Workshop.stage_move]
  nofun

/-- Every step leaves the sessions where they should be, and as far as they should be there. -/
theorem Steady.of_change (steady : Steady ids dispatch) {made : DispatchEvent}
    (foreign : made.IsForeign ids) (change : dispatch.Change made next) : Steady ids next := by
  have kept := steady.kept.of_change change
  cases change with
  | goes asked held torn joined =>
    exact steady.go kept (Workshop.transition_refl _) rfl held torn
  | does event foreignly stages held torn joined =>
    exact steady.go kept (steady.orderly.transition_step (foreignly ids foreign)) stages held torn
  | receives new present door =>
    exact steady.receive kept new present (by rw [door]; exact ⟨rfl, rfl⟩) ⟨rfl, rfl⟩
  | @turnsAway handle new present door =>
    have free : dispatch.door.held = [] ∧ dispatch.door.torn = [] := by
      rw [door]
      exact ⟨rfl, rfl⟩
    have between := @Kept.receive _ _ steady.kept new (.returned handle) free ⟨rfl, rfl⟩ nofun
    have returned := steady.receive between new present free ⟨rfl, rfl⟩
    exact returned.dismiss kept ⟨rfl, rfl⟩ ⟨rfl, rfl⟩
  | submits door room => exact steady.submit kept door
  | dismisses door => exact steady.dismiss kept (by rw [door]; exact ⟨rfl, rfl⟩) ⟨rfl, rfl⟩
  | tears hands free unclosed => exact steady.tear kept hands free
  | takes waiting free => exact steady.take kept waiting
  | works mine stopped => exact steady.work kept mine
  | leaves mine serving => exact steady.leave mine serving

end Dispatch

end WatchedStore.Session
