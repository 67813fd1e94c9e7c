import WatchedStore.Error
import WatchedStore.Text.Control

/-! # Keys and values

A key is filed by its first character, without regard to case: the letters of the alphabet take the
buckets 0 to 25 and the digits take 26 to 35. A key or value that the store accepts is a short text
without control characters and without the characters that structure the output of jobs, so every
accepted text fits a wire field and no output line is ambiguous.
-/

namespace WatchedStore

open WatchedStore.Text

/-- The number of buckets: one for each letter and each digit. -/
def bucketCount : Nat := 36

/-- The most bytes that a key or a value may have. -/
def maxTextSize : Nat := 40

/-- One of the buckets. -/
abbrev BucketIndex := Fin bucketCount

/-- The bucket for a first character. -/
def bucketOfChar? (c : Char) : Option BucketIndex :=
  let n := c.toNat
  if h : 97 ≤ n ∧ n ≤ 122 then some ⟨n - 97, by simp only [bucketCount]; omega⟩
  else if h : 65 ≤ n ∧ n ≤ 90 then some ⟨n - 65, by simp only [bucketCount]; omega⟩
  else if h : 48 ≤ n ∧ n ≤ 57 then some ⟨26 + (n - 48), by simp only [bucketCount]; omega⟩
  else none

/-- The bucket of a key; none when the first character is no ASCII letter or digit. -/
def bucketOf? (key : String) : Option BucketIndex := key.toList.head?.bind bucketOfChar?

/-- The characters that structure the output of jobs. -/
def isReserved (c : Char) : Bool := c = '(' || c = ')' || c = '[' || c = ']' || c = ','

/-- What is wrong with a text as a key or a value; the first fault in the order of the tests. -/
def textFault? (text : String) : Option TextFault :=
  if text.toList = [] then some .empty
  else if maxTextSize < text.utf8ByteSize then some .tooLong
  else if text.toList.any isControl then some .control
  else if text.toList.any isReserved then some .reserved
  else none

/-- Checks a key and finds its bucket. -/
def validateKey (key : String) : Except Error BucketIndex :=
  match textFault? key with
  | some fault => .error (.invalidKey key fault)
  | none =>
    match bucketOf? key with
    | some index => .ok index
    | none => .error (.invalidKey key .firstCharacter)

/-- Checks a value that is to be stored under a key. -/
def validateValue (key value : String) : Except Error Unit :=
  match textFault? value with
  | some fault => .error (.invalidValue key fault)
  | none => .ok ()

/-- Checks a pair, the key first. -/
def validatePair (key value : String) : Except Error BucketIndex :=
  match validateKey key with
  | .error error => .error error
  | .ok index =>
    match validateValue key value with
    | .error error => .error error
    | .ok () => .ok index

theorem validateKey_eq_ok_iff {key : String} {index : BucketIndex} :
    validateKey key = .ok index ↔ textFault? key = none ∧ bucketOf? key = some index := by
  unfold validateKey
  cases textFault? key <;> cases bucketOf? key <;> simp

theorem validateValue_eq_ok_iff {key value : String} :
    validateValue key value = .ok () ↔ textFault? value = none := by
  unfold validateValue
  cases textFault? value <;> simp

theorem validatePair_eq_ok_iff {key value : String} {index : BucketIndex} :
    validatePair key value = .ok index ↔
      textFault? key = none ∧ bucketOf? key = some index ∧ textFault? value = none := by
  unfold validatePair
  cases hk : validateKey key with
  | error error =>
    simp only [reduceCtorEq, false_iff]
    rintro ⟨clean, placed, -⟩
    exact nomatch hk.symm.trans (validateKey_eq_ok_iff.2 ⟨clean, placed⟩)
  | ok found =>
    obtain ⟨clean, placed⟩ := validateKey_eq_ok_iff.1 hk
    cases hv : validateValue key value with
    | error error =>
      simp only [reduceCtorEq, false_iff]
      rintro ⟨-, -, good⟩
      exact nomatch hv.symm.trans (validateValue_eq_ok_iff.2 good)
    | ok u => simp [clean, placed, validateValue_eq_ok_iff.1 hv]

end WatchedStore
