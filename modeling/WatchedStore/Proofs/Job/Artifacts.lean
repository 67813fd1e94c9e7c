import WatchedStore.Proofs.Backup.Naming
import WatchedStore.Proofs.Files.Trees
import WatchedStore.Proofs.Job.Outputs

/-! # The jobs of a directory and what they leave there

The jobs of a directory are its scripts, in the order of the bytes of their names: one for each
file, and none for a directory or for another name. Scripts, outputs and numbered backups stand in
one directory under names of their own, whatever dots, dashes and digits the stems are made of.
-/

namespace WatchedStore

open WatchedStore.Text

/-- What is in a file; none for a directory. -/
def Entry.content? : Entry → Option Bytes
  | file content => some content
  | directory => none

namespace JobFile

/-- The order of names is that of their bytes. -/
theorem bytesLe_iff {first second : Bytes} : bytesLe first second = true ↔ first ≤ second := by
  rw [List.le_iff_lt_or_eq]
  induction first generalizing second with
  | nil => cases second <;> simp [bytesLe]
  | cons a as ih =>
    cases second with
    | nil => simp [bytesLe]
    | cons b bs =>
      simp only [bytesLe, Bool.or_eq_true, Bool.and_eq_true, decide_eq_true_eq, ih,
        List.cons_lt_cons_iff, List.cons.injEq, and_or_left, or_assoc]

theorem pairwise_mergeSort_bytesLe (names : List Bytes) :
    (names.mergeSort bytesLe).Pairwise (· ≤ ·) := by
  have trans : ∀ a b c, bytesLe a b = true → bytesLe b c = true → bytesLe a c = true := by
    simp only [bytesLe_iff]
    exact fun _ _ _ => List.le_trans
  have total : ∀ a b, (bytesLe a b || bytesLe b a) = true := by
    simp only [Bool.or_eq_true, bytesLe_iff]
    exact List.le_total
  exact (List.pairwise_mergeSort trans total names).imp bytesLe_iff.mp

/-- The names of the files in a listing. -/
def fileNames (listed : List (Bytes × Entry)) : List Bytes :=
  listed.filterMap fun item => item.2.content?.map fun _ => item.1

section Listing

variable {listed : List (Bytes × Entry)} {name : Bytes}

theorem mem_fileNames_iff : name ∈ fileNames listed ↔ ∃ content, (name, .file content) ∈ listed := by
  unfold fileNames
  rw [List.mem_filterMap]
  constructor
  · rintro ⟨⟨other, entry⟩, member, found⟩
    cases entry with
    | directory => cases found
    | file content =>
      obtain rfl : other = name := Option.some.inj found
      exact ⟨content, member⟩
  · rintro ⟨content, member⟩
    exact ⟨_, member, rfl⟩

theorem nodup_fileNames (once : (listed.map Prod.fst).Nodup) : (fileNames listed).Nodup := by
  refine (List.pairwise_map.mp once).filterMap _ fun one other apart name found name' found' => ?_
  obtain ⟨_, -, rfl⟩ := Option.map_eq_some_iff.mp found
  obtain ⟨_, -, rfl⟩ := Option.map_eq_some_iff.mp found'
  exact apart

end Listing

section Directory

variable {tree : FileTree} {directory : Path} {place : Place}

/-- Discovery describes the files of a listing in the one order that ascends. -/
theorem discover_eq {listed : List (Bytes × Entry)} {names : List Bytes}
    (success : tree.list directory = .ok listed) (ascends : names.Pairwise (· ≤ ·))
    (same : (fileNames listed).Perm names) :
    discover tree directory =
      .ok (names.filterMap fun name => ofPath? (directory.join ⟨name⟩)) := by
  have sorted : (fileNames listed).mergeSort bytesLe = names :=
    ((List.mergeSort_perm (fileNames listed) bytesLe).trans same).eq_of_pairwise
      (fun _ _ _ _ => List.le_antisymm) (pairwise_mergeSort_bytesLe _) ascends
  rw [← sorted]
  unfold discover
  simp only [success]
  refine congrArg (fun names => Except.ok ((List.mergeSort names bytesLe).filterMap _))
    (List.filterMap_congr fun item _ => ?_)
  obtain ⟨name, entry⟩ := item
  cases entry <;> rfl

/-- Discovery describes the files of a directory in the order of their names. -/
theorem exists_discover (proper : tree.IsProper) (resolved : tree.resolve directory = .ok place)
    (present : tree.entry? place = some .directory) :
    ∃ names : List Bytes,
      discover tree directory = .ok (names.filterMap fun name => ofPath? (directory.join ⟨name⟩)) ∧
      names.Pairwise (· < ·) ∧
      ∀ name, name ∈ names ↔ ∃ content, tree.entry? (place ++ [name]) = some (.file content) := by
  obtain ⟨listed, success, once, shown⟩ := FileTree.exists_list proper resolved present
  have sorted := pairwise_mergeSort_bytesLe (fileNames listed)
  have same := List.mergeSort_perm (fileNames listed) bytesLe
  have distinct := same.nodup_iff.mpr (nodup_fileNames once)
  refine ⟨_, discover_eq success sorted same.symm, ?_, fun name => ?_⟩
  · exact sorted.imp₂ (fun _ _ below apart => (List.le_iff_lt_or_eq.mp below).resolve_right apart)
      distinct
  · rw [List.mem_mergeSort, mem_fileNames_iff]
    simp only [shown]

/-- The jobs of a directory are those of the stems of its scripts, in order. -/
theorem exists_jobs (proper : tree.IsProper) (resolved : tree.resolve directory = .ok place)
    (present : tree.entry? place = some .directory) :
    ∃ jobs, discover tree directory = .ok jobs ∧
      jobs.Pairwise (fun one other => encode (scriptName one.name) < encode (scriptName other.name)) ∧
      ∀ job, job ∈ jobs ↔ ∃ stem, job = ofStem directory stem ∧ stem ≠ "" ∧
        ∃ content, tree.entry? (place ++ [encode (scriptName stem)]) = some (.file content) := by
  obtain ⟨names, success, ascending, files⟩ := exists_discover proper resolved present
  have isName : ∀ {name}, name ∈ names → IsFileName name := by
    intro name member
    obtain ⟨content, here⟩ := (files name).mp member
    exact FileTree.isFileName_of_entry? proper here
  refine ⟨_, success, List.pairwise_filterMap.mpr ?_, fun job => ?_⟩
  · refine ascending.imp_of_mem fun {one other} member also below job found job' found' => ?_
    obtain ⟨stem, -, -, rfl, rfl⟩ := exists_of_ofPath? (isName member) found
    obtain ⟨stem', -, -, rfl, rfl⟩ := exists_of_ofPath? (isName also) found'
    exact below
  · rw [List.mem_filterMap]
    constructor
    · rintro ⟨name, member, found⟩
      obtain ⟨stem, nonempty, -, rfl, rfl⟩ := exists_of_ofPath? (isName member) found
      exact ⟨stem, rfl, nonempty, (files _).mp member⟩
    · rintro ⟨stem, rfl, nonempty, here⟩
      have member := (files _).mpr here
      have single := slash_not_mem_of_scriptName (isName member)
      exact ⟨_, member, ofPath?_join nonempty single directory⟩

end Directory

end JobFile

/-- A file that belongs to a job: its script, its output, or one of its backups. -/
inductive Artifact
  | input (job : JobFile)
  | output (job : JobFile)
  | backup (job : JobFile) (ordinal : Nat)
deriving DecidableEq

namespace Artifact

/-- The job of a file. -/
def job : Artifact → JobFile
  | input job | output job | backup job _ => job

/-- Where the file stands. -/
def path (backups : Backups) : Artifact → Path
  | input job => job.input
  | output job => job.output
  | backup job ordinal => backups.path job.name ordinal

/-- The last name of the path. -/
def name : Artifact → String
  | input job => JobFile.scriptName job.name
  | output job => JobFile.outputName job.name
  | backup job ordinal => Backups.fileName job.name ordinal

variable {one other : Artifact} {stem : String}

/-- The bytes with which the name of such a file can end. -/
def lastBytes : Artifact → Bytes
  | input _ => [0x62]
  | output _ => [0x74, dot]
  | backup _ _ => [0x6B]

theorem exists_getLast? (artifact : Artifact) :
    ∃ byte ∈ artifact.lastBytes, (encode artifact.name).getLast? = some byte := by
  cases artifact with
  | input job =>
    refine ⟨_, List.mem_singleton_self _, ?_⟩
    rw [name, JobFile.encode_scriptName, List.getLast?_append_of_ne_nil _ (List.cons_ne_nil _ _)]
    decide
  | output job =>
    rw [name, JobFile.encode_outputName]
    split
    · exact ⟨dot, List.mem_cons_of_mem _ (List.mem_singleton_self _), rfl⟩
    · refine ⟨_, List.mem_cons_self, ?_⟩
      rw [List.getLast?_append_of_ne_nil _ (List.cons_ne_nil _ _)]
      decide
  | backup job ordinal =>
    exact ⟨_, List.mem_singleton_self _, Backups.getLast?_encode_fileName job.name ordinal⟩

theorem outputName_injective : Function.Injective JobFile.outputName := by
  intro stem other same
  have long : ∀ stem : String, stem ++ ".out" ≠ ".." := by
    intro stem short
    have size := congrArg String.length short
    have four : ".out".length = 4 := by decide
    have two : "..".length = 2 := by decide
    rw [String.length_append] at size
    omega
  unfold JobFile.outputName at same
  split at same
  · next here =>
    split at same
    · next there => exact here.trans there.symm
    · exact absurd same.symm (long other)
  · split at same
    · exact absurd same (long stem)
    · exact (String.append_left_inj ".out").mp same

/-- The name tells what kind of file it is, and of which job. -/
theorem eq_of_name_eq (same : one.name = other.name)
    (named : one.job.name = other.job.name → one.job = other.job) : one = other := by
  have shared : ∃ byte ∈ one.lastBytes, byte ∈ other.lastBytes := by
    obtain ⟨byte, ends, last⟩ := one.exists_getLast?
    obtain ⟨byte', ends', last'⟩ := other.exists_getLast?
    rw [same, last', Option.some.injEq] at last
    exact ⟨byte, ends, last ▸ ends'⟩
  cases one with
  | input job =>
    cases other with
    | input job' => exact congrArg input (named ((String.append_left_inj ".job").mp same))
    | output | backup => simp [lastBytes, dot] at shared
  | output job =>
    cases other with
    | output job' => exact congrArg output (named (outputName_injective same))
    | input | backup => simp [lastBytes, dot] at shared
  | backup job ordinal =>
    cases other with
    | backup job' ordinal' =>
      obtain ⟨names, rfl⟩ := Backups.fileName_injective same
      exact congrArg (backup · ordinal) (named names)
    | input | output => simp [lastBytes, dot] at shared

/-- The file stands in the directory of the jobs, under its name. -/
theorem segments_path {directory : Path} {backups : Backups} (beside : backups.directory = directory)
    (placed : one.job = JobFile.ofStem directory stem) (nonempty : stem ≠ "")
    (single : '/' ∉ stem.toList) :
    (one.path backups).segments = directory.segments ++ [encode one.name] := by
  cases one with
  | input job =>
    obtain rfl : job = JobFile.ofStem directory stem := placed
    have proper := JobFile.isFileName_scriptName nonempty single
    exact Path.segments_join proper.single proper.nonempty proper.notHere directory
  | output job =>
    obtain rfl : job = JobFile.ofStem directory stem := placed
    by_cases above : stem = "."
    · subst above
      exact Path.segments_join (by decide) (by decide) (by decide) directory
    · have proper := JobFile.isFileName_outputName nonempty single above
      exact Path.segments_join proper.single proper.nonempty proper.notHere directory
  | backup job ordinal =>
    obtain rfl : job = JobFile.ofStem directory stem := placed
    have proper := Backups.isFileName_fileName single ordinal
    rw [path, Backups.path, beside]
    exact Path.segments_join proper.single proper.nonempty proper.notHere directory

end Artifact

open JobFile

/-- The jobs of a directory: one for each file whose name is a stem and the extension of scripts, and
none for a directory or for another name, in the order of the bytes of the file names. With the backups
in the same directory, the paths of all scripts, outputs and backups of these jobs differ, also where
they are compared segment by segment. -/
theorem artifacts_of_directory {tree : FileTree} {directory : Path} {place : Place}
    {backups : Backups} (proper : tree.IsProper) (resolved : tree.resolve directory = .ok place)
    (present : tree.entry? place = some .directory) (beside : backups.directory = directory) :
    ∃ jobs, discover tree directory = .ok jobs ∧
      (∀ job ∈ jobs, job.input = directory.join (.ofText (job.name ++ ".job")) ∧
        ofPath? job.input = some job) ∧
      (∀ name, (∃ job ∈ jobs, job.name = name) ↔ name ≠ "" ∧
        ∃ content, tree.entry? (place ++ [encode (name ++ ".job")]) = some (.file content)) ∧
      jobs.Pairwise (fun one other => encode (one.name ++ ".job") < encode (other.name ++ ".job")) ∧
      ∀ one other : Artifact, one.job ∈ jobs → other.job ∈ jobs → one ≠ other →
        (one.path backups).segments ≠ (other.path backups).segments := by
  obtain ⟨jobs, success, ascending, members⟩ := exists_jobs proper resolved present
  have stems : ∀ {job}, job ∈ jobs →
      ∃ stem, job = ofStem directory stem ∧ stem ≠ "" ∧ '/' ∉ stem.toList := by
    intro job member
    obtain ⟨stem, same, nonempty, content, here⟩ := (members job).mp member
    have named := FileTree.isFileName_of_entry? proper here
    exact ⟨stem, same, nonempty, slash_not_mem_of_scriptName named⟩
  refine ⟨jobs, success, fun job member => ?_, fun name => ?_, ascending, ?_⟩
  · obtain ⟨stem, rfl, nonempty, single⟩ := stems member
    exact ⟨rfl, ofPath?_join nonempty single directory⟩
  · constructor
    · rintro ⟨job, member, rfl⟩
      obtain ⟨stem, rfl, nonempty, here⟩ := (members job).mp member
      exact ⟨nonempty, here⟩
    · rintro ⟨nonempty, here⟩
      exact ⟨ofStem directory name, (members _).mpr ⟨name, rfl, nonempty, here⟩, rfl⟩
  · intro one other member also apart same
    obtain ⟨stem, placed, nonempty, single⟩ := stems member
    obtain ⟨stem', placed', nonempty', single'⟩ := stems also
    rw [Artifact.segments_path beside placed nonempty single,
      Artifact.segments_path beside placed' nonempty' single'] at same
    have names := encode_injective (List.singleton_injective (List.append_cancel_left same))
    refine apart (Artifact.eq_of_name_eq names fun named => ?_)
    rw [placed, placed'] at named ⊢
    exact congrArg (ofStem directory) named

/-- Stems of dots, dashes and digits, a directory with the name of a script, and a script without a
stem. -/
theorem artifacts_of_directory_with_dots :
    let tree : FileTree :=
      ⟨[([encode "d"], .directory), ([encode "d", encode "x..job"], .file []),
        ([encode "d", encode "a.job.job"], .file []), ([encode "d", encode "b.job"], .directory),
        ([encode "d", encode "a.job"], .file []), ([encode "d", encode ".job"], .file []),
        ([encode "d", encode "..job"], .file []), ([encode "d", encode "a-1.job"], .file []),
        ([encode "d", encode "a.out"], .file [])]⟩
    let directory := Path.ofText "d"
    let backups : Backups := ⟨directory, 1, 0, 0, [], []⟩
    let jobs := [".", "a-1", "a", "a.job", "x."].map (ofStem directory)
    tree.IsProper ∧ tree.resolve directory = .ok [encode "d"] ∧
    tree.entry? [encode "d"] = some .directory ∧ discover tree directory = .ok jobs ∧
    jobs.Pairwise (fun one other => encode (one.name ++ ".job") < encode (other.name ++ ".job")) ∧
    ((Artifact.backup (ofStem directory "a") 12).path backups).segments ≠
      ((Artifact.backup (ofStem directory "a-1") 2).path backups).segments ∧
    ((Artifact.output (ofStem directory ".")).path backups).segments ≠
      ((Artifact.input (ofStem directory "a.job")).path backups).segments := by
  intro tree directory backups jobs
  have proper : tree.IsProper := by decide +kernel
  have resolved : tree.resolve directory = .ok [encode "d"] := by decide +kernel
  have present : tree.entry? [encode "d"] = some .directory := by decide +kernel
  let names := ["..job", ".job", "a-1.job", "a.job", "a.job.job", "a.out", "x..job"].map encode
  have found : discover tree directory = .ok jobs :=
    (@discover_eq tree directory _ names rfl (by decide +kernel) (by decide +kernel)).trans
      (congrArg Except.ok (by decide +kernel))
  obtain ⟨_, success, -, -, ascending, apart⟩ :=
    @artifacts_of_directory tree directory _ backups proper resolved present rfl
  obtain rfl := Except.ok.inj (found.symm.trans success)
  exact ⟨proper, resolved, present, found, ascending,
    apart _ _ (by decide +kernel) (by decide +kernel) (by decide +kernel),
    apart _ _ (by decide +kernel) (by decide +kernel) (by decide +kernel)⟩

end WatchedStore
