import WatchedStore.Job.File
import WatchedStore.Proofs.Files.Names
import WatchedStore.Proofs.Text.Encoding

/-! # Where the output of a job goes

A script is a file whose name is a stem and the extension of scripts. The stem names the job, and the
output goes into the directory of the script, to the same stem with another extension. There is one
exception: the output of the script whose stem is a single dot is the directory above, where no file
can be written.
-/

namespace WatchedStore

open WatchedStore.Text

namespace JobFile

/-- The name of the script of a job. -/
def scriptName (stem : String) : String := stem ++ ".job"

/-- The name of the output of a job. -/
def outputName (stem : String) : String := if stem = "." then ".." else stem ++ ".out"

variable {stem : String} {name front : Bytes} {job : JobFile}

theorem slash_mem_encode_iff {text : String} : slash ∈ encode text ↔ '/' ∈ text.toList := by
  rw [mem_encode_iff (by decide)]
  constructor
  · rintro ⟨c, member, number⟩
    obtain rfl : c = '/' := Char.toNat_inj.mp number
    exact member
  · exact fun member => ⟨_, member, rfl⟩

theorem encode_eq_nil_iff {text : String} : encode text = [] ↔ text = "" := by
  refine ⟨fun empty => encode_injective (empty.trans (by decide)), ?_⟩
  rintro rfl
  decide

theorem encode_scriptName (stem : String) :
    encode (scriptName stem) = encode stem ++ dot :: inputExtension := by
  have suffix : encode ".job" = dot :: inputExtension := by decide
  rw [scriptName, encode_append, suffix]

theorem encode_outputName (stem : String) :
    encode (outputName stem) =
      if encode stem = [dot] then [dot, dot] else encode stem ++ dot :: outputExtension := by
  have single : encode stem = [dot] ↔ stem = "." :=
    ⟨fun same => encode_injective (same.trans (by decide)), fun same => same ▸ (by decide)⟩
  have suffix : encode ".out" = dot :: outputExtension := by decide
  unfold outputName
  split
  · next here =>
    rw [if_pos (single.mpr here)]
    decide
  · next other => rw [if_neg (mt single.mp other), encode_append, suffix]

theorem isFileName_scriptName (nonempty : stem ≠ "") (single : '/' ∉ stem.toList) :
    IsFileName (encode (scriptName stem)) := by
  rw [encode_scriptName]
  exact Path.isFileName_append (mt slash_mem_encode_iff.mp single) (mt encode_eq_nil_iff.mp nonempty)
    (by decide) (by decide)

theorem slash_not_mem_of_scriptName (proper : IsFileName (encode (scriptName stem))) :
    '/' ∉ stem.toList := fun member => proper.single <| by
  rw [encode_scriptName]
  exact List.mem_append_left _ (slash_mem_encode_iff.mpr member)

theorem slash_not_mem_outputName (single : '/' ∉ stem.toList) : slash ∉ encode (outputName stem) := by
  rw [slash_mem_encode_iff]
  unfold outputName
  split
  · decide
  · rw [String.toList_append, List.mem_append]
    exact not_or.mpr ⟨single, by decide⟩

theorem isFileName_outputName (nonempty : stem ≠ "") (single : '/' ∉ stem.toList)
    (apart : stem ≠ ".") : IsFileName (encode (outputName stem)) := by
  have apart : encode stem ≠ [dot] := fun same => apart (encode_injective (same.trans (by decide)))
  rw [encode_outputName, if_neg apart]
  exact Path.isFileName_append (mt slash_mem_encode_iff.mp single) (mt encode_eq_nil_iff.mp nonempty)
    (by decide) (by decide)

/-- The job of a script, described by what stands in front of its name. -/
theorem ofPath?_append (isFront : Path.IsFront front) (nonempty : stem ≠ "")
    (single : '/' ∉ stem.toList) :
    ofPath? ⟨front ++ encode (scriptName stem)⟩ =
      some ⟨stem, ⟨front ++ encode (scriptName stem)⟩, ⟨front ++ encode (outputName stem)⟩⟩ := by
  have proper := isFileName_scriptName nonempty single
  have nonempty := mt encode_eq_nil_iff.mp nonempty
  have clear : dot ∉ inputExtension := by decide
  rw [encode_scriptName] at proper ⊢
  unfold ofPath?
  rw [Path.extension?_append isFront proper nonempty clear, if_pos rfl,
    Path.stem?_append isFront proper nonempty clear, Option.bind_some, decode?_encode,
    Option.map_some, Path.withExtension_append isFront proper nonempty clear, encode_outputName]

/-- The job of a stem in a directory. -/
def ofStem (directory : Path) (stem : String) : JobFile :=
  ⟨stem, directory.join (.ofText (scriptName stem)), directory.join (.ofText (outputName stem))⟩

theorem ofPath?_join (nonempty : stem ≠ "") (single : '/' ∉ stem.toList) (directory : Path) :
    ofPath? (directory.join (.ofText (scriptName stem))) = some (ofStem directory stem) := by
  obtain ⟨front, isFront, joined⟩ := directory.exists_front
  have script := (isFileName_scriptName nonempty single).single
  rw [ofStem, Path.ofText, Path.ofText, joined _ script, joined _ (slash_not_mem_outputName single)]
  exact ofPath?_append isFront nonempty single

/-- Only scripts are jobs. -/
theorem exists_of_ofPath? {directory : Path} (proper : IsFileName name)
    (described : ofPath? (directory.join ⟨name⟩) = some job) :
    ∃ stem, stem ≠ "" ∧ '/' ∉ stem.toList ∧ name = encode (scriptName stem) ∧
      job = ofStem directory stem := by
  obtain ⟨front, isFront, joined⟩ := directory.exists_front
  have split := Path.splitName?_of_isFileName isFront proper
  rw [← joined name proper.single] at split
  have whole := described
  unfold ofPath? at described
  obtain ⟨extended, named⟩ := Option.ite_none_right_eq_some.mp described
  rw [Path.extension?, Path.fileName?, split, Option.map_some, Option.bind_some] at extended
  rw [Path.stem?, Path.fileName?, split, Option.map_some, Option.map_some,
    Option.bind_some] at named
  obtain ⟨stem, text, -⟩ := Option.map_eq_some_iff.mp named
  have cut : Path.splitExtension name = (encode stem, some inputExtension) :=
    Prod.ext (decode?_eq_some_iff.mp text) extended
  obtain ⟨nonempty, -, shape⟩ := Path.splitExtension_eq_some cut
  rw [← encode_scriptName] at shape
  subst shape
  have nonempty := mt encode_eq_nil_iff.mpr nonempty
  have single := slash_not_mem_of_scriptName proper
  exact ⟨stem, nonempty, single, rfl,
    Option.some.inj (whole.symm.trans (ofPath?_join nonempty single directory))⟩

/-- A file whose name is a stem and the extension of scripts is a job: it has the name of the stem, and
its output is the sibling with the other extension, whatever dots the stem holds, unless it is nothing
but one dot. Then the output is the directory above that of the script. -/
theorem ofPath?_of_script {stem : String} (nonempty : stem ≠ "") (single : '/' ∉ stem.toList)
    (directory : Path) :
    let input := directory.join (.ofText (stem ++ ".job"))
    let sibling := directory.join (.ofText (stem ++ ".out"))
    let above := directory.join (.ofText "..")
    ofPath? input = some ⟨stem, input, if stem = "." then above else sibling⟩ := by
  intro input sibling above
  refine (ofPath?_join nonempty single directory).trans ?_
  unfold ofStem outputName
  split <;> rfl

/-- A stem with dots at both ends. -/
theorem ofPath?_of_script_with_dots :
    "..a." ≠ "" ∧ '/' ∉ "..a.".toList ∧
    ofPath? (.ofText "d/..a..job") =
      some ⟨"..a.", .ofText "d/..a..job", .ofText "d/..a..out"⟩ := by
  have input : (Path.ofText "d").join (.ofText ("..a." ++ ".job")) = .ofText "d/..a..job" := by decide
  have output : (Path.ofText "d").join (.ofText ("..a." ++ ".out")) = .ofText "d/..a..out" := by decide
  have described := @ofPath?_of_script "..a." (by decide) (by decide) (.ofText "d")
  dsimp only at described
  rw [input, output, if_neg (by decide)] at described
  exact ⟨by decide, by decide, described⟩

/-- The script whose stem is a dot: its output is the directory above, not the sibling, and cannot be
written. -/
theorem ofPath?_ne_sibling_of_dot :
    let tree : FileTree :=
      ⟨[([encode "d"], .directory), ([encode "d", encode "..job"], .file [])]⟩
    "." ≠ "" ∧ '/' ∉ ".".toList ∧
    ofPath? (.ofText "d/..job") = some ⟨".", .ofText "d/..job", .ofText "d/.."⟩ ∧
    ofPath? (.ofText "d/..job") ≠ some ⟨".", .ofText "d/..job", .ofText "d/..out"⟩ ∧
    tree.write (.ofText "d/..") [] = .error FileTree.isDirectory := by
  decide +kernel

end JobFile

end WatchedStore
