import Mathlib.Data.List.Basic
import WatchedStore.Backups
import WatchedStore.Proofs.Files.Writing
import WatchedStore.Proofs.Text.Encoding
import WatchedStore.Text.Split

/-! # The names of backup files

A file is named for a job and an ordinal, with a dash between the two. The digits of the ordinal
contain no dash, so the last dash of the name shows where the job ends, whatever dashes the job itself
contains: no two backups have one name. A job without a slash gives a name that stays in the
directory of the backups.
-/

namespace WatchedStore.Backups

open WatchedStore.Text

variable {job other : String} {ordinal otherOrdinal : Nat}

theorem toList_fileName (job : String) (ordinal : Nat) :
    (fileName job ordinal).toList =
      job.toList ++ '-' :: (Nat.toDigits 10 ordinal ++ ".bck".toList) := by
  have shape : fileName job ordinal = job ++ "-" ++ ordinal.repr ++ ".bck" := rfl
  simp [shape, String.toList_append, Nat.toList_repr]

theorem splitLast?_fileName (job : String) (ordinal : Nat) :
    splitLast? (· = '-') (fileName job ordinal).toList =
      some (job.toList, Nat.toDigits 10 ordinal ++ ".bck".toList) := by
  refine splitLast?_eq_some_iff.mpr ⟨?_, '-', decide_eq_true rfl, toList_fileName job ordinal⟩
  intro c member
  refine decide_eq_false ?_
  rintro rfl
  rcases List.mem_append.mp member with digit | suffix
  · have numeral := Nat.isDigit_of_mem_toDigits (by decide) (by decide) digit
    exact absurd numeral (by decide)
  · exact absurd suffix (by decide)

/-- The name tells the job and the ordinal. -/
theorem fileName_injective (same : fileName job ordinal = fileName other otherOrdinal) :
    job = other ∧ ordinal = otherOrdinal := by
  have cut := splitLast?_fileName job ordinal
  rw [same, splitLast?_fileName, Option.some.injEq, Prod.mk.injEq] at cut
  have digits := List.append_cancel_right cut.2
  have numbers := congrArg (Nat.ofDigitChars 10 · 0) digits
  simp only [Nat.ofDigitChars_toDigits (by decide : 1 < 10) (Nat.le_refl 10)] at numbers
  exact ⟨String.toList_injective cut.1.symm, numbers.symm⟩

theorem getLast?_encode_fileName (job : String) (ordinal : Nat) :
    (encode (fileName job ordinal)).getLast? = some 0x6B := by
  have shape : fileName job ordinal = job ++ "-" ++ ordinal.repr ++ ".bck" := rfl
  have suffix : encode ".bck" = [0x2E, 0x62, 0x63, 0x6B] := by decide
  simp [shape, suffix]

/-- The name of a file for a job without a slash is a single name. -/
theorem isFileName_fileName (single : '/' ∉ job.toList) (ordinal : Nat) :
    IsFileName (encode (fileName job ordinal)) where
  single := by
    intro member
    obtain ⟨c, inside, number⟩ := (mem_encode_iff (by decide)).mp member
    obtain rfl : c = '/' := Char.toNat_inj.mp number
    rw [toList_fileName] at inside
    rcases List.mem_append.mp inside with here | rest
    · exact single here
    · rcases List.mem_cons.mp rest with dash | rest
      · exact absurd dash (by decide)
      · rcases List.mem_append.mp rest with digit | suffix
        · have numeral := Nat.isDigit_of_mem_toDigits (by decide) (by decide) digit
          exact absurd numeral (by decide)
        · exact absurd suffix (by decide)
  nonempty none := absurd (getLast?_encode_fileName job ordinal) (none ▸ by decide)
  notHere here := absurd (getLast?_encode_fileName job ordinal) (here ▸ by decide)
  notAbove above := absurd (getLast?_encode_fileName job ordinal) (above ▸ by decide)

end WatchedStore.Backups
