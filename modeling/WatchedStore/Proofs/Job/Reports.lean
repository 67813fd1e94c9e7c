import Mathlib.Data.List.Forall2
import WatchedStore.Proofs.Job.Parsing
import WatchedStore.Proofs.Job.Pieces
import WatchedStore.Proofs.Wire.Frames
import WatchedStore.Report

/-! # What an output text tells

An output text is a row of entries, each a key and a value in parentheses. Nothing is escaped. A key
ends at the first comma behind its opening parenthesis and a value at the first closing parenthesis
behind that comma, so the row can be cut back into its entries as soon as no key holds a comma and no
value a closing parenthesis. The parser gives no key with a comma and the store takes no value with a
parenthesis. A text therefore tells the list that it was made from, except that reading prints the
marker of a missing key where it would print a value with the same letters.
-/

namespace WatchedStore.Report

open WatchedStore.Text

/-- The characters of an entry, with what stands in front of the value and behind the entry. -/
def entryText (gap ending : List Char) (entry : String × String) : List Char :=
  '(' :: (entry.1.toList ++ ',' :: (gap ++ (entry.2.toList ++ ')' :: ending)))

/-- An entry that can be cut into its key and its value. -/
structure Separable (entry : String × String) : Prop where
  key : ',' ∉ entry.1.toList
  value : ')' ∉ entry.2.toList

section Rows

variable {gap ending : List Char} {first second : List (String × String)}

/-- The entry at the front of a text and what stands behind it are determined. -/
theorem entryText_append_inj {one other : String × String} {rest others : List Char}
    (left : Separable one) (right : Separable other)
    (same : entryText gap ending one ++ rest = entryText gap ending other ++ others) :
    one = other ∧ rest = others := by
  have shape : ∀ (entry : String × String) (after : List Char),
      entryText gap ending entry ++ after =
        '(' :: (entry.1.toList ++ ',' :: (gap ++ (entry.2.toList ++ ')' :: (ending ++ after)))) := by
    intro entry after
    simp only [entryText, List.cons_append, List.append_assoc]
  rw [shape, shape] at same
  have keyed := congrArg (splitFirst? (· = ',')) (List.cons.inj same).2
  rw [Job.splitFirst?_of_clear left.key, Job.splitFirst?_of_clear right.key] at keyed
  obtain ⟨key, behind⟩ := Prod.mk.inj (Option.some.inj keyed)
  have valued := congrArg (splitFirst? (· = ')')) (List.append_cancel_left behind)
  rw [Job.splitFirst?_of_clear left.value, Job.splitFirst?_of_clear right.value] at valued
  obtain ⟨value, behind⟩ := Prod.mk.inj (Option.some.inj valued)
  exact ⟨Prod.ext (String.toList_inj.mp key) (String.toList_inj.mp value),
    List.append_cancel_left behind⟩

/-- A row of entries tells the entries. -/
theorem flatMap_entryText_inj (separable : ∀ entry ∈ first ++ second, Separable entry)
    (same : first.flatMap (entryText gap ending) = second.flatMap (entryText gap ending)) :
    first = second := by
  induction first generalizing second with
  | nil =>
    cases second with
    | nil => rfl
    | cons other others => cases same
  | cons one rest ih =>
    cases second with
    | nil => cases same
    | cons other others =>
      rw [List.flatMap_cons, List.flatMap_cons] at same
      obtain ⟨rfl, behind⟩ :=
        entryText_append_inj (separable one (by simp)) (separable other (by simp)) same
      rw [ih (fun entry member => separable entry ?_) behind]
      rcases List.mem_append.mp member with member | member <;> simp [member]

end Rows

theorem toList_listing (pairs : List (String × String)) :
    (listing pairs).toList = pairs.flatMap (entryText [' '] ['\n']) := by
  have each : ∀ pair : String × String, (line pair.1 pair.2).toList = entryText [' '] ['\n'] pair := by
    intro pair
    simp [line, entryText]
  simp only [listing, String.toList_join, List.flatMap_map, each]

theorem toList_listPieces (entries : List (String × String)) :
    (String.join (listPieces entries)).toList =
      '[' :: (entries.flatMap (entryText [] []) ++ [']', '\n']) := by
  have each : ∀ entry : String × String, (item entry.1 entry.2).toList = entryText [] [] entry := by
    intro entry
    simp [item, entryText]
  simp [join_listPieces, List.flatMap_map, each]

section Lists

variable {first second : List (String × String)}

theorem listing_inj (separable : ∀ pair ∈ first ++ second, Separable pair) :
    encode (listing first) = encode (listing second) ↔ first = second := by
  refine ⟨fun same => ?_, fun same => same ▸ rfl⟩
  have texts := congrArg String.toList (encode_injective same)
  rw [toList_listing, toList_listing] at texts
  exact flatMap_entryText_inj separable texts

/-- A bracketed list tells its entries. -/
theorem listPieces_inj (separable : ∀ entry ∈ first ++ second, Separable entry)
    (same : encode (String.join (listPieces first)) = encode (String.join (listPieces second))) :
    first = second := by
  have texts := congrArg String.toList (encode_injective same)
  rw [toList_listPieces, toList_listPieces] at texts
  exact flatMap_entryText_inj separable (List.append_cancel_right (List.cons.inj texts).2)

end Lists

/-! ## Reading -/

/-- What is printed for a result of reading: its value, or the marker. -/
def filled (result : String × Option String) : String × String :=
  (result.1, result.2.getD readMarker)

/-- Two results of reading that look the same: they are the same, or one is a missing key and the
other is this key with the marker as its value. -/
inductive Confusable : String × Option String → String × Option String → Prop
  | same (result : String × Option String) : Confusable result result
  | missingFound (key : String) : Confusable (key, none) (key, some readMarker)
  | foundMissing (key : String) : Confusable (key, some readMarker) (key, none)

theorem filled_eq_iff {one other : String × Option String} :
    filled one = filled other ↔ Confusable one other := by
  constructor
  · obtain ⟨key, found⟩ := one
    obtain ⟨otherKey, otherFound⟩ := other
    intro same
    obtain ⟨rfl, values⟩ := Prod.mk.inj same
    cases found with
    | none =>
      cases otherFound with
      | none => exact .same _
      | some value =>
        obtain rfl : readMarker = value := values
        exact .missingFound key
    | some value =>
      cases otherFound with
      | none =>
        obtain rfl : value = readMarker := values
        exact .foundMissing key
      | some otherValue =>
        obtain rfl : value = otherValue := values
        exact .same _
  · intro confused
    cases confused <;> rfl

theorem map_filled_eq_iff {first second : List (String × Option String)} :
    first.map filled = second.map filled ↔ List.Forall₂ Confusable first second := by
  rw [← List.forall₂_eq_eq_eq, List.forall₂_map_left_iff, List.forall₂_map_right_iff]
  simp only [filled_eq_iff]

/-! ## The texts -/

theorem not_mem_of_clean {text : String} {c : Char} (clean : textFault? text = none)
    (reserved : isReserved c = true) : c ∉ text.toList :=
  fun member => Bool.false_ne_true ((Wire.plain_of_clean clean member).2.symm.trans reserved)

theorem separable_of_valid {pair : String × String} {index : BucketIndex}
    (valid : validatePair pair.1 pair.2 = .ok index) : Separable pair := by
  obtain ⟨keyClean, -, valueClean⟩ := validatePair_eq_ok_iff.mp valid
  exact ⟨not_mem_of_clean keyClean rfl, not_mem_of_clean valueClean rfl⟩

theorem separable_filled {result : String × Option String} (clear : ',' ∉ result.1.toList)
    (valid : ∀ value, result.2 = some value → validateValue result.1 value = .ok ()) :
    Separable (filled result) := by
  refine ⟨clear, ?_⟩
  unfold filled
  cases found : result.2 with
  | none => exact (by decide : ')' ∉ readMarker.toList)
  | some value => exact not_mem_of_clean (validateValue_eq_ok_iff.mp (valid value found)) rfl

/-- What a reading prints is determined by the results, and determines them up to the marker. -/
theorem reading_inj {first second : List (String × Option String)}
    (separable : ∀ result ∈ first ++ second, Separable (filled result)) :
    encode (reading first) = encode (reading second) ↔ first.map filled = second.map filled := by
  have text : ∀ results, reading results = String.join (listPieces (results.map filled)) := reading_eq
  rw [text, text]
  refine ⟨listPieces_inj fun entry member => ?_, fun same => same ▸ rfl⟩
  rw [← List.map_append] at member
  obtain ⟨result, asked, rfl⟩ := List.mem_map.mp member
  exact separable result asked

theorem missing_inj {first second : List String} (clear : ∀ key ∈ first ++ second, ',' ∉ key.toList) :
    encode (missing first) = encode (missing second) ↔ first = second := by
  refine ⟨fun same => ?_, fun same => same ▸ rfl⟩
  let marked : String → String × String := fun key => (key, missingMarker)
  have opened : ∀ key keys, encode (missing (key :: keys)) =
      encode (String.join (listPieces ((key :: keys).map marked))) := by
    intro key keys
    rw [missing_eq, missingPieces, if_neg (List.cons_ne_nil _ _)]
  have nonempty : ∀ entries, encode (String.join (listPieces entries)) ≠ encode "" := by
    intro entries empty
    have text := congrArg String.toList (encode_injective empty)
    rw [toList_listPieces] at text
    cases text
  cases first with
  | nil =>
    cases second with
    | nil => rfl
    | cons key keys => exact absurd (same.trans (opened key keys)).symm (nonempty _)
  | cons key keys =>
    cases second with
    | nil => exact absurd ((opened key keys).symm.trans same) (nonempty _)
    | cons other others =>
      rw [opened, opened] at same
      have entries := listPieces_inj (fun entry member => ?_) same
      · exact List.map_injective_iff.mpr (fun _ _ same => (Prod.mk.inj same).1) entries
      · rw [← List.map_append] at member
        obtain ⟨key, absent, rfl⟩ := List.mem_map.mp member
        exact ⟨clear key absent, (by decide : ')' ∉ missingMarker.toList)⟩

/-- Output texts are unambiguous. Listings of pairs that the store accepts have the same bytes only
if the pairs are the same. Readings of keys without commas have the same bytes exactly if the results
are the same once the marker is put in for every missing value, which is to say that entry by entry
the results are the same or a missing key is taken for one that stores the marker. Lists of missing
keys without commas have the same bytes only if the keys are the same. No job line asks to read or to
delete a key with a comma. -/
theorem texts_tell_their_lists :
    (∀ first second : List (String × String),
      (∀ pair ∈ first ++ second, ∃ index, validatePair pair.1 pair.2 = .ok index) →
      (encode (listing first) = encode (listing second) ↔ first = second)) ∧
    (∀ first second : List (String × Option String),
      (∀ result ∈ first ++ second, ',' ∉ result.1.toList ∧
        ∀ value, result.2 = some value → validateValue result.1 value = .ok ()) →
      (encode (reading first) = encode (reading second) ↔ first.map filled = second.map filled) ∧
      (encode (reading first) = encode (reading second) ↔ List.Forall₂ Confusable first second)) ∧
    (∀ first second : List String, (∀ key ∈ first ++ second, ',' ∉ key.toList) →
      (encode (missing first) = encode (missing second) ↔ first = second)) ∧
    ∀ (number : Nat) (line : String) (keys : List String),
      Job.parseLine number line = .ok (some (.read keys)) ∨
        Job.parseLine number line = .ok (some (.delete keys)) →
      ∀ key ∈ keys, ',' ∉ key.toList := by
  refine ⟨fun first second valid => ?_, fun first second valid => ?_, fun first second => missing_inj,
    fun number line keys parsed => ?_⟩
  · refine listing_inj fun pair member => ?_
    obtain ⟨index, valid⟩ := valid pair member
    exact separable_of_valid valid
  · have separable : ∀ result ∈ first ++ second, Separable (filled result) := fun result member =>
      separable_filled (valid result member).1 (valid result member).2
    exact ⟨reading_inj separable, (reading_inj separable).trans map_filled_eq_iff⟩
  · simp only [Job.parseLine_eq_ok_iff] at parsed
    exact Job.comma_not_mem_of_parseText parsed

/-- Values may begin and end with spaces, and a key may hold parentheses: the texts differ all the
same. A missing key and one that stores the marker are told apart by nothing. -/
theorem texts_tell_their_lists_of_spaces_and_markers :
    let spaced := [("a", " 1 "), ("b", "2")]
    let other := [("a", "1 "), ("b", "2")]
    let missed := [("(a", none), ("b", some " ")]
    let marked := [("(a", some readMarker), ("b", some " ")]
    let joined := [("(a", none), ("b)(b", some " ")]
    (∀ pair ∈ spaced ++ other, ∃ index, validatePair pair.1 pair.2 = .ok index) ∧
    encode (listing spaced) ≠ encode (listing other) ∧
    encode (reading missed) = encode (reading marked) ∧
    encode (reading missed) ≠ encode (reading joined) ∧
    encode (missing ["a)(b"]) ≠ encode (missing ["a", "b"]) ∧
    Job.parseLine 1 "READ [ (a , b) ]" = .ok (some (.read ["(a", "b)"])) ∧
    ',' ∉ "(a".toList := by
  intro spaced other missed marked joined
  obtain ⟨listings, readings, missings, parsed⟩ := texts_tell_their_lists
  have accepted : ∀ pair ∈ spaced ++ other, ∃ index, validatePair pair.1 pair.2 = .ok index := by
    decide +kernel
  have valid : ∀ result ∈ missed ++ marked ++ joined, ',' ∉ result.1.toList ∧
      ∀ value, result.2 = some value → validateValue result.1 value = .ok () := by
    simp only [missed, marked, joined, List.cons_append, List.nil_append, List.forall_mem_cons,
      Option.some.injEq, forall_eq', reduceCtorEq, false_implies, implies_true]
    decide +kernel
  have read : Job.parseLine 1 "READ [ (a , b) ]" = .ok (some (.read ["(a", "b)"])) := by
    decide +kernel
  refine ⟨accepted, ?_, ?_, ?_, ?_, read, parsed 1 _ _ (.inl read) _ (by decide)⟩
  · exact (listings spaced other accepted).not.mpr (by decide +kernel)
  · refine (readings missed marked fun result member => valid result ?_).2.mpr ?_
    · exact List.mem_append_left joined member
    · exact .cons (.missingFound "(a") (.cons (.same _) .nil)
  · refine (readings missed joined fun result member => valid result ?_).1.not.mpr (by decide +kernel)
    rcases List.mem_append.mp member with member | member
    · exact List.mem_append_left joined (List.mem_append_left marked member)
    · exact List.mem_append_right (missed ++ marked) member
  · exact (missings _ _ (by decide +kernel)).not.mpr (by decide +kernel)

end WatchedStore.Report
