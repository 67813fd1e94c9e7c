import Mathlib.Data.Fintype.EquivFin
import Mathlib.Logic.Function.Basic
import WatchedStore.Store.LockOrder

/-! # Batches at the gates of the buckets

Every bucket has a gate, which one writer or any number of readers hold at a time. A batch goes
through the gates of its guard one after the other, does its work while it holds all of them, and
gives them back in the opposite order. Any number of batches are under way, and one of them takes a
step at a time. A gate may keep a reader back while a writer waits in front of it; which readers it
keeps back is left open and may depend on everything that has happened.

A guard ascends, so a batch waits for a gate above all those that it holds. Hence the highest gate
that anybody waits for is held by nobody who waits, and from the holders, or from those who wait
there, somebody can go on. No batch takes more than three steps for each of its gates and one for its
work, so any finite number of batches come to an end. Nothing is said about how long a single one of
them has to wait for the others.
-/

namespace WatchedStore

/-- A batch by what it locks: the buckets of its keys, or all of them. -/
inductive Batch
  | ofKeys (keys : List String) (mode : LockMode)
  | whole (mode : LockMode)
deriving DecidableEq, Repr

/-- The guard that a batch takes. -/
def Batch.guard : Batch → Guard
  | ofKeys keys mode => Guard.ofKeys keys mode
  | whole mode => Guard.whole mode

/-- The gates of a batch strictly ascend, whatever its keys are. -/
theorem Batch.ascends (batch : Batch) : batch.guard.buckets.Pairwise (· < ·) := by
  cases batch with
  | ofKeys keys mode => exact pairwise_ascending _
  | whole mode => exact List.pairwise_lt_finRange bucketCount

/-- Whether two holders can share a gate. -/
def LockMode.shares : LockMode → LockMode → Bool
  | shared, shared => true
  | _, _ => false

theorem LockMode.shares_iff {one other : LockMode} :
    one.shares other = true ↔ one = shared ∧ other = shared := by
  cases one <;> cases other <;> simp [shares]

/-- How far a batch is on its way. -/
inductive Turn
  /-- It holds the first gates of its guard and has not asked for the next one. -/
  | approaching (held : Nat)
  /-- It holds the first gates of its guard and waits for the next one. -/
  | waiting (held : Nat)
  /-- Its work is done, and the first gates of its guard are still to be given back. -/
  | leaving (held : Nat)
deriving DecidableEq, Repr

namespace Turn

/-- How many gates the batch holds. -/
def held : Turn → Nat
  | approaching held => held
  | waiting held => held
  | leaving held => held

/-- The work is done and every gate given back. -/
def IsFinished (turn : Turn) : Prop := turn = leaving 0

/-- A batch with a number of gates can be as far as that. -/
def Fits (gates : Nat) : Turn → Prop
  | approaching held => held ≤ gates
  | waiting held => held < gates
  | leaving held => held ≤ gates

/-- How many steps a batch has taken to come as far as that: two for each gate on the way in, one
for its work and one for each gate on the way out. -/
def steps (gates : Nat) : Turn → Nat
  | approaching held => 2 * held
  | waiting held => 2 * held + 1
  | leaving held => 2 * gates + 1 + (gates - held)

theorem steps_le {gates : Nat} {turn : Turn} (fits : turn.Fits gates) :
    turn.steps gates ≤ 3 * gates + 1 := by
  cases turn with
  | approaching held =>
    have inside : held ≤ gates := fits
    simp only [steps]
    omega
  | waiting held =>
    have inside : held < gates := fits
    simp only [steps]
    omega
  | leaving held =>
    simp only [steps]
    omega

end Turn

section Steps

variable {ι : Type} (guards : ι → Guard)

/-- A batch holds a gate. -/
def Holds (turns : ι → Turn) (batch : ι) (gate : BucketIndex) : Prop :=
  gate ∈ (guards batch).buckets.take (turns batch).held

instance (turns : ι → Turn) (batch : ι) (gate : BucketIndex) :
    Decidable (Holds guards turns batch gate) :=
  inferInstanceAs (Decidable (_ ∈ _))

/-- A batch has asked for a gate and waits in front of it. -/
def WaitsAt (turns : ι → Turn) (batch : ι) (gate : BucketIndex) : Prop :=
  ∃ held, turns batch = .waiting held ∧ (guards batch).buckets[held]? = some gate

/-- The gate may keep the batch back, a reader that finds a writer waiting there. -/
def MayKeepBack (turns : ι → Turn) (batch : ι) (gate : BucketIndex) : Prop :=
  (guards batch).mode = .shared ∧
    ∃ writer, (guards writer).mode = .exclusive ∧ WaitsAt guards turns writer gate

/-- One step of a batch, and how far it is then. The gates keep back those readers that they may
keep back and that `keepsBack` names. -/
inductive Step (keepsBack : ι → Prop) (turns : ι → Turn) : ι → Turn → Prop
  /-- The batch asks for its next gate. -/
  | ask {batch held gate} (here : turns batch = .approaching held)
      (next : (guards batch).buckets[held]? = some gate) :
      Step keepsBack turns batch (.waiting held)
  /-- The gate is free for the batch, which takes it. -/
  | take {batch held gate} (here : turns batch = .waiting held)
      (next : (guards batch).buckets[held]? = some gate)
      (free : ∀ holder, Holds guards turns holder gate →
        (guards batch).mode.shares (guards holder).mode = true)
      (admitted : ¬ (MayKeepBack guards turns batch gate ∧ keepsBack batch)) :
      Step keepsBack turns batch (.approaching (held + 1))
  /-- The batch holds all its gates and does its work. -/
  | work {batch held} (here : turns batch = .approaching held)
      (all : (guards batch).buckets.length = held) :
      Step keepsBack turns batch (.leaving held)
  /-- The batch gives back the gate that it took last. -/
  | release {batch held} (here : turns batch = .leaving (held + 1)) :
      Step keepsBack turns batch (.leaving held)

/-- What a run leads to, with the batches that took its steps, the last one first. Which readers are
kept back may depend on these. -/
inductive Reaches [DecidableEq ι] (keepsBack : List ι → ι → Prop) : List ι → (ι → Turn) → Prop
  | start : Reaches keepsBack [] fun _ => .approaching 0
  | step {log turns batch next} (reached : Reaches keepsBack log turns)
      (step : Step guards (keepsBack log) turns batch next) :
      Reaches keepsBack (batch :: log) (Function.update turns batch next)

end Steps

section Safety

variable {ι : Type} {guards : ι → Guard} {turns : ι → Turn} {keepsBack : ι → Prop} {batch : ι}
  {next : Turn}

/-- No batch is past the end of its guard, and holders of one gate share it. -/
structure Orderly (guards : ι → Guard) (turns : ι → Turn) : Prop where
  fits : ∀ batch, (turns batch).Fits (guards batch).buckets.length
  shared : ∀ one other gate, one ≠ other → Holds guards turns one gate →
    Holds guards turns other gate → (guards one).mode.shares (guards other).mode = true

theorem orderly_start (guards : ι → Guard) : Orderly guards fun _ => .approaching 0 where
  fits _ := Nat.zero_le _
  shared _ _ _ _ holds := absurd holds (by simp [Holds, Turn.held])

theorem Step.fits (step : Step guards keepsBack turns batch next)
    (orderly : Orderly guards turns) : next.Fits (guards batch).buckets.length := by
  have before := orderly.fits batch
  cases step with
  | ask here more =>
    obtain ⟨inside, -⟩ := List.getElem?_eq_some_iff.mp more
    exact inside
  | take here more free admitted =>
    rw [here] at before
    exact before
  | work here all => exact Nat.le_of_eq all.symm
  | release here =>
    rw [here] at before
    exact Nat.le_of_succ_le before

/-- Every step counts. -/
theorem Step.steps_eq (step : Step guards keepsBack turns batch next)
    (orderly : Orderly guards turns) :
    next.steps (guards batch).buckets.length =
      (turns batch).steps (guards batch).buckets.length + 1 := by
  have before := orderly.fits batch
  cases step with
  | ask here => simp only [here, Turn.steps]
  | take here =>
    simp only [here, Turn.steps]
    omega
  | work here all =>
    simp only [here, Turn.steps]
    omega
  | @release held here =>
    rw [here] at before
    have inside : held + 1 ≤ (guards batch).buckets.length := before
    simp only [here, Turn.steps]
    omega

variable [DecidableEq ι]

/-- Only a gate that was free is held after a step and not before. -/
theorem Step.holds (step : Step guards keepsBack turns batch next) {holder : ι}
    {gate : BucketIndex} (holds : Holds guards (Function.update turns batch next) holder gate) :
    Holds guards turns holder gate ∨ holder = batch ∧ ∀ other, Holds guards turns other gate →
      (guards batch).mode.shares (guards other).mode = true := by
  unfold Holds at holds
  by_cases same : holder = batch
  · subst same
    rw [Function.update_self] at holds
    cases step with
    | ask here => exact .inl (by rw [Holds, here]; exact holds)
    | @take _ taken here more free =>
      rw [Turn.held, List.take_add_one, List.mem_append] at holds
      rcases holds with old | new
      · exact .inl (by rw [Holds, here]; exact old)
      · rw [more, Option.toList_some, List.mem_singleton] at new
        exact .inr ⟨rfl, new ▸ free⟩
    | work here => exact .inl (by rw [Holds, here]; exact holds)
    | release here =>
      refine .inl ?_
      rw [Holds, here]
      exact (List.take_subset_take_left _ (Nat.le_succ _)) holds
  · rw [Function.update_of_ne same] at holds
    exact .inl holds

theorem Step.orderly (step : Step guards keepsBack turns batch next)
    (orderly : Orderly guards turns) : Orderly guards (Function.update turns batch next) where
  fits other := by
    by_cases same : other = batch
    · subst same
      rw [Function.update_self]
      exact step.fits orderly
    · rw [Function.update_of_ne same]
      exact orderly.fits other
  shared := by
    intro one other gate apart holdsOne holdsOther
    rcases step.holds holdsOne with before | ⟨rfl, free⟩
    · rcases step.holds holdsOther with also | ⟨rfl, free⟩
      · exact orderly.shared one other gate apart before also
      · have fine := LockMode.shares_iff.mp (free one before)
        exact LockMode.shares_iff.mpr fine.symm
    · rcases step.holds holdsOther with also | ⟨rfl, -⟩
      · exact free other also
      · exact absurd rfl apart

theorem Reaches.orderly {policy : List ι → ι → Prop} {log : List ι}
    (reached : Reaches guards policy log turns) : Orderly guards turns := by
  induction reached with
  | start => exact orderly_start guards
  | step _ step ih => exact step.orderly ih

/-- How often a batch stands in the log says how far it is. -/
theorem Reaches.count_eq {policy : List ι → ι → Prop} {log : List ι}
    (reached : Reaches guards policy log turns) (batch : ι) :
    log.count batch = (turns batch).steps (guards batch).buckets.length := by
  induction reached with
  | start => rfl
  | @step log turns mover next reached step ih =>
    by_cases same : mover = batch
    · subst same
      rw [List.count_cons_self, Function.update_self, step.steps_eq reached.orderly, ih]
    · rw [List.count_cons_of_ne same, Function.update_of_ne (Ne.symm same), ih]

end Safety

section Progress

variable {ι : Type} {guards : ι → Guard} {turns : ι → Turn} (keepsBack : ι → Prop) {batch : ι}

/-- A batch that has not asked for its next gate can go on. -/
theorem exists_step_of_approaching (orderly : Orderly guards turns) {held : Nat}
    (here : turns batch = .approaching held) : ∃ next, Step guards keepsBack turns batch next := by
  have fits : held ≤ (guards batch).buckets.length := by
    have := orderly.fits batch
    rwa [here] at this
  rcases Nat.lt_or_eq_of_le fits with more | all
  · exact ⟨_, .ask here (List.getElem?_eq_getElem more)⟩
  · exact ⟨_, .work here all.symm⟩

/-- In an ascending guard the next gate is above those that are held. -/
theorem lt_of_holds (ascends : (guards batch).buckets.Pairwise (· < ·)) {held : Nat}
    (here : turns batch = .waiting held) {gate next : BucketIndex}
    (more : (guards batch).buckets[held]? = some next) (holds : Holds guards turns batch gate) :
    gate < next := by
  simp only [Holds, here, Turn.held] at holds
  obtain ⟨inside, rfl⟩ := List.getElem?_eq_some_iff.mp more
  obtain ⟨place, below, rfl⟩ := List.mem_take_iff_getElem.mp holds
  exact List.pairwise_iff_getElem.mp ascends _ _ _ inside (by omega)

/-- In front of a gate that nobody holds some batch can go on: a writer that waits there, or if
there is none, any reader. -/
theorem exists_step_of_vacant {gate : BucketIndex} (waits : WaitsAt guards turns batch gate)
    (vacant : ∀ holder, ¬ Holds guards turns holder gate) :
    ∃ other next, Step guards keepsBack turns other next := by
  by_cases wanted : ∃ writer, (guards writer).mode = .exclusive ∧ WaitsAt guards turns writer gate
  · obtain ⟨writer, exclusive, held, here, more⟩ := wanted
    refine ⟨writer, _, .take here more (fun holder holds => absurd holds (vacant holder)) ?_⟩
    rintro ⟨⟨shared, -⟩, -⟩
    cases exclusive.symm.trans shared
  · obtain ⟨held, here, more⟩ := waits
    refine ⟨batch, _, .take here more (fun holder holds => absurd holds (vacant holder)) ?_⟩
    exact fun kept => wanted kept.1.2

/-- Where a batch waits, some batch can go on: the induction goes up the gates. -/
theorem exists_step_of_waitsAt (orderly : Orderly guards turns)
    (ascend : ∀ batch, (guards batch).buckets.Pairwise (· < ·)) {gate : BucketIndex}
    (waits : WaitsAt guards turns batch gate) :
    ∃ other next, Step guards keepsBack turns other next := by
  induction gate using WellFoundedGT.induction generalizing batch with
  | ind gate ih =>
    by_cases taken : ∃ holder, Holds guards turns holder gate
    · obtain ⟨holder, holds⟩ := taken
      cases here : turns holder with
      | approaching held => exact ⟨holder, exists_step_of_approaching keepsBack orderly here⟩
      | waiting held =>
        have inside : held < (guards holder).buckets.length := by
          have := orderly.fits holder
          rwa [here] at this
        have more := List.getElem?_eq_getElem inside
        exact ih _ (lt_of_holds (ascend holder) here more holds) ⟨held, here, more⟩
      | leaving held =>
        cases held with
        | zero => simp [Holds, here, Turn.held] at holds
        | succ held => exact ⟨holder, _, .release here⟩
    · exact exists_step_of_vacant keepsBack waits (not_exists.mp taken)

/-- While a batch is not finished, some batch can go on. -/
theorem exists_step_of_unfinished (orderly : Orderly guards turns)
    (ascend : ∀ batch, (guards batch).buckets.Pairwise (· < ·))
    (unfinished : ¬ (turns batch).IsFinished) :
    ∃ other next, Step guards keepsBack turns other next := by
  cases here : turns batch with
  | approaching held => exact ⟨batch, exists_step_of_approaching keepsBack orderly here⟩
  | waiting held =>
    have inside : held < (guards batch).buckets.length := by
      have := orderly.fits batch
      rwa [here] at this
    exact exists_step_of_waitsAt keepsBack orderly ascend
      ⟨held, here, List.getElem?_eq_getElem inside⟩
  | leaving held =>
    cases held with
    | zero => exact absurd here unfinished
    | succ held => exact ⟨batch, _, .release here⟩

end Progress

/-- Any batches, with any keys and modes, in any order of their steps and with any choice of the
readers that the gates keep back behind waiting writers: as long as a batch is not finished, some
batch can take its next step, of which each has a bounded number, and two batches hold a gate at the
same time only as readers. -/
theorem moving_and_exclusive_of_reaches {ι : Type} [DecidableEq ι] (batches : ι → Batch)
    (keepsBack : List ι → ι → Prop) {log : List ι} {turns : ι → Turn}
    (reached : Reaches (fun batch => (batches batch).guard) keepsBack log turns) :
    ((∃ batch, ¬ (turns batch).IsFinished) →
      ∃ batch next, Step (fun batch => (batches batch).guard) (keepsBack log) turns batch next) ∧
    (∀ batch, log.count batch ≤ 3 * (batches batch).guard.buckets.length + 1) ∧
    ∀ one other gate, one ≠ other →
      Holds (fun batch => (batches batch).guard) turns one gate →
      Holds (fun batch => (batches batch).guard) turns other gate →
      (batches one).guard.mode = .shared ∧ (batches other).guard.mode = .shared := by
  have orderly := reached.orderly
  refine ⟨?_, ?_, ?_⟩
  · rintro ⟨batch, unfinished⟩
    exact exists_step_of_unfinished (keepsBack log) orderly (fun batch => (batches batch).ascends)
      unfinished
  · intro batch
    rw [reached.count_eq batch]
    exact Turn.steps_le (orderly.fits batch)
  · intro one other gate apart holdsOne holdsOther
    exact LockMode.shares_iff.mp (orderly.shared one other gate apart holdsOne holdsOther)

/-- A reader of the whole store and a second writer wait for the first bucket, which the first
writer holds on its way to the second one: the gate keeps the reader back, and still some batch goes
on. -/
theorem moving_and_exclusive_of_kept_reader :
    let batches : Fin 3 → Batch := fun
      | 0 => .ofKeys ["b", "A"] .exclusive
      | 1 => .whole .shared
      | 2 => .ofKeys ["a", "_", "a"] .exclusive
    let guards := fun batch => (batches batch).guard
    let turns : Fin 3 → Turn := fun
      | 0 => .approaching 1
      | 1 => .waiting 0
      | 2 => .waiting 0
    let gate : BucketIndex := ⟨0, by decide⟩
    Reaches guards (fun _ _ => True) [2, 1, 0, 0] turns ∧ Holds guards turns 0 gate ∧
    MayKeepBack guards turns 1 gate ∧
    ∃ batch next, Step guards (fun _ => True) turns batch next := by
  intro batches guards turns gate
  have next : ∀ batch, (guards batch).buckets[0]? = some gate := by decide +kernel
  have ask : ∀ (turns : Fin 3 → Turn) (batch : Fin 3), turns batch = .approaching 0 →
      Step guards (fun _ => True) turns batch (.waiting 0) :=
    fun _ batch here => .ask here (next batch)
  have reached : Reaches guards (fun _ _ => True) [2, 1, 0, 0] turns := by
    have nobody : Reaches guards (fun _ _ => True) [] _ := .start
    have asked := nobody.step (ask _ 0 rfl)
    let alone : Fin 3 → Turn := Function.update (fun _ => .approaching 0) 0 (.waiting 0)
    have vacant : ∀ holder, ¬ Holds guards alone holder gate := by decide +kernel
    have take : Step guards (fun _ => True) alone 0 (.approaching 1) :=
      .take rfl (next 0) (fun holder holds => absurd holds (vacant holder)) fun kept =>
        nomatch kept.1.1
    have taken := asked.step take
    have both := (taken.step (ask _ 1 rfl)).step (ask _ 2 rfl)
    convert both using 1
    decide +kernel
  have holds : Holds guards turns 0 gate := by decide +kernel
  have kept : MayKeepBack guards turns 1 gate := ⟨rfl, 2, rfl, 0, rfl, next 2⟩
  obtain ⟨moves, -⟩ := moving_and_exclusive_of_reaches batches (fun _ _ => True) reached
  exact ⟨reached, holds, kept, moves ⟨1, fun finished => nomatch finished⟩⟩

end WatchedStore
