import Mathlib.Data.List.FinRange
import WatchedStore.Store.Basic

/-! # Buckets in order

Reading the buckets one after the other, each from its oldest node on, sorts the nodes by bucket and
keeps the order of creation inside a bucket. This is what a stable sort of a list in order of
creation does; the lemmas about sorting by a rank hold for any list.
-/

namespace WatchedStore

section Rank

variable {α : Type}

private theorem filter_lt_succ {rank : α → Nat} {items : List α}
    (sorted : items.Pairwise fun a b => rank a ≤ rank b) (n : Nat) :
    items.filter (fun item => rank item < n + 1) =
      items.filter (fun item => rank item < n) ++ items.filter fun item => rank item = n := by
  induction items with
  | nil => rfl
  | cons item rest ih =>
    obtain ⟨least, restSorted⟩ := List.pairwise_cons.mp sorted
    have later := ih restSorted
    by_cases below : rank item < n
    · have within : rank item < n + 1 := by omega
      have apart : rank item ≠ n := by omega
      simp only [List.filter_cons, within, below, apart, decide_true, decide_false, ↓reduceIte,
        Bool.false_eq_true, later, List.cons_append]
    · have emptied : rest.filter (fun item => rank item < n) = [] := by
        apply List.filter_eq_nil_iff.mpr
        intro other member
        have above := least other member
        simp only [decide_eq_true_eq]
        omega
      rw [emptied, List.nil_append] at later
      simp only [List.filter_cons, below, decide_false, Bool.false_eq_true, ↓reduceIte, emptied,
        List.nil_append, later]
      by_cases here : rank item = n
      · simp only [here, decide_true, ↓reduceIte, Nat.lt_succ_self]
      · have beyond : ¬ rank item < n + 1 := by omega
        simp only [here, beyond, decide_false, Bool.false_eq_true, ↓reduceIte]

/-- A sorted list is made of its classes, one rank after the other. -/
theorem filter_lt_eq_flatMap {rank : α → Nat} {items : List α}
    (sorted : items.Pairwise fun a b => rank a ≤ rank b) (n : Nat) :
    items.filter (fun item => rank item < n) =
      (List.range n).flatMap fun i => items.filter fun item => rank item = i := by
  induction n with
  | zero => simp
  | succ n ih =>
    rw [filter_lt_succ sorted, ih, List.range_succ, List.flatMap_append, List.flatMap_singleton]

private theorem rank_trans (rank : α → Nat) (a b c : α) (first : decide (rank a ≤ rank b) = true)
    (second : decide (rank b ≤ rank c) = true) : decide (rank a ≤ rank c) = true :=
  decide_eq_true (Nat.le_trans (of_decide_eq_true first) (of_decide_eq_true second))

private theorem rank_total (rank : α → Nat) (a b : α) :
    (decide (rank a ≤ rank b) || decide (rank b ≤ rank a)) = true := by
  simp only [Bool.or_eq_true, decide_eq_true_eq]
  omega

/-- A sorted list is left as it is. -/
theorem mergeSort_mergeSort (rank : α → Nat) (items : List α) :
    ((items.mergeSort fun a b => rank a ≤ rank b).mergeSort fun a b => rank a ≤ rank b) =
      items.mergeSort fun a b => rank a ≤ rank b :=
  List.mergeSort_of_pairwise (List.pairwise_mergeSort (rank_trans rank) (rank_total rank) items)

/-- A stable sort keeps the order inside each class. -/
theorem filter_mergeSort (rank : α → Nat) (items : List α) (i : Nat) :
    (items.mergeSort fun a b => rank a ≤ rank b).filter (fun item => rank item = i) =
      items.filter fun item => rank item = i := by
  have level : (items.filter fun item => rank item = i).Pairwise
      fun a b => decide (rank a ≤ rank b) = true := by
    apply List.pairwise_filter.mpr
    apply List.pairwise_of_forall
    intro a b first second
    have := of_decide_eq_true first
    have := of_decide_eq_true second
    exact decide_eq_true (by omega)
  have inside := List.sublist_mergeSort (rank_trans rank) (rank_total rank) level
    List.filter_sublist
  have kept := inside.filter fun item => rank item = i
  rw [List.filter_filter] at kept
  simp only [Bool.and_self] at kept
  refine (kept.eq_of_length ?_).symm
  exact ((List.mergeSort_perm items _).filter _).length_eq.symm

theorem mergeSort_eq_flatMap {rank : α → Nat} {items : List α} {n : Nat}
    (bounded : ∀ item ∈ items, rank item < n) :
    (items.mergeSort fun a b => rank a ≤ rank b) =
      (List.range n).flatMap fun i => items.filter fun item => rank item = i := by
  have sorted : (items.mergeSort fun a b => rank a ≤ rank b).Pairwise
      fun a b => rank a ≤ rank b := by
    exact (List.pairwise_mergeSort (rank_trans rank) (rank_total rank) items).imp of_decide_eq_true
  have everything : (items.mergeSort fun a b => rank a ≤ rank b).filter
      (fun item => rank item < n) = items.mergeSort fun a b => rank a ≤ rank b := by
    apply List.filter_eq_self.mpr
    intro item member
    exact decide_eq_true (bounded item (List.mem_mergeSort.mp member))
  rw [← everything, filter_lt_eq_flatMap sorted]
  simp only [filter_mergeSort]

end Rank

/-- Where the bucket of a key stands among the buckets. -/
def bucketRank (key : String) : Nat := ((bucketOf? key).map Fin.val).getD bucketCount

theorem bucketRank_eq_iff {key : String} {index : BucketIndex} :
    bucketRank key = index.val ↔ bucketOf? key = some index := by
  unfold bucketRank
  cases bucketOf? key with
  | none =>
    have bound := index.isLt
    simp only [Option.map_none, Option.getD_none, reduceCtorEq, iff_false]
    omega
  | some other => simp only [Option.map_some, Option.getD_some, Option.some.injEq, Fin.ext_iff]

/-- Filing pairs by bucket and reading the buckets in order sorts them by bucket. -/
theorem flatMap_buckets_eq_mergeSort {items : List (String × String)}
    (placed : ∀ item ∈ items, ∃ index, bucketOf? item.1 = some index) :
    ((List.finRange bucketCount).flatMap fun index =>
        items.filter fun item => bucketOf? item.1 = some index) =
      items.mergeSort fun a b => bucketRank a.1 ≤ bucketRank b.1 := by
  have bounded : ∀ item ∈ items, bucketRank item.1 < bucketCount := by
    intro item member
    obtain ⟨index, here⟩ := placed item member
    rw [bucketRank_eq_iff.mpr here]
    exact index.isLt
  rw [mergeSort_eq_flatMap bounded, ← List.map_coe_finRange_eq_range, List.flatMap_map]
  congr 1
  funext index
  congr 1
  funext item
  exact decide_eq_decide.mpr bucketRank_eq_iff.symm

/-- The nodes of a store stand bucket after bucket. -/
theorem Store.nodes_eq_flatMap (store : Store) :
    store.nodes = (List.finRange bucketCount).flatMap store.bucket := by
  have listed : store.buckets.toList = (List.finRange bucketCount).map store.bucket := by
    apply List.ext_getElem
    · simp
    · intro i _ _
      simp [Store.bucket]
  rw [Store.nodes, listed, List.flatMap_def]

end WatchedStore
