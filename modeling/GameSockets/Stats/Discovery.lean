/-
Finding the run files of a scenario directory.

A directory is the list of the names in it.  Each listing of it gives them in an order of
its own.  A protocol is what stands before the first `_run` of a stem, and its files are
those whose stem is the protocol or goes on with `_run`.
-/
import GameSockets.Library.Grouping
import GameSockets.Library.Separator
import GameSockets.Library.Sorted
import Mathlib.Data.Char
import Mathlib.Data.List.Infix
import Mathlib.Data.List.Lex

namespace GameSockets
namespace Stats

open Library

/-- A file name, as its characters. -/
abbrev Name := List Char

/-- The name up to its last dot and what follows the dot. -/
def rsplitFileAtDot (file : Name) : Option Name × Option Name :=
  if file = ['.', '.'] then (some file, none)
  else
    let after := (file.reverse.takeWhile (· ≠ '.')).reverse
    let before :=
      match file.reverse.dropWhile (· ≠ '.') with
      | [] => none
      | _ :: rest => some rest.reverse
    if before = some [] then (some file, none) else (before, some after)

def fileStem (file : Name) : Option Name :=
  let (before, after) := rsplitFileAtDot file
  before.or after

def extension (file : Name) : Option Name :=
  let (before, after) := rsplitFileAtDot file
  before.bind fun _ => after

def isCsv (file : Name) : Bool := extension file = some "csv".toList

def runSeparator : Name := "_run".toList

def protocolOf (stem : Name) : Name :=
  if runSeparator <:+: stem then Separator.before runSeparator stem else stem

def discoverProtocols (scenarioDir : List Name) : List Name :=
  let protocols := (scenarioDir.filter isCsv).filterMap fun p => (fileStem p).map protocolOf
  Sorted.dedup protocols.mergeSort

def findRunFiles (scenarioDir : List Name) (protocol : Name) : List Name :=
  let files := scenarioDir.filter fun p =>
    isCsv p &&
      (fileStem p).elim false fun s => s = protocol || protocol ++ runSeparator <+: s
  files.mergeSort

/-! ## The protocol of a file -/

theorem unbordered_runSeparator : Separator.Unbordered runSeparator := by
  have htails : ∀ t ∈ runSeparator.tails, t <+: runSeparator → t = [] ∨ t = runSeparator := by
    decide
  exact fun t hsuffix => htails t ((List.mem_tails t runSeparator).mpr hsuffix)

theorem protocolOf_eq (stem : Name) : protocolOf stem = Separator.before runSeparator stem := by
  unfold protocolOf
  split
  · rfl
  · next h => exact (Separator.before_eq_self h).symm

/-- No protocol has the separator in it. -/
theorem not_infix_protocolOf (stem : Name) : ¬ runSeparator <:+: protocolOf stem := by
  rw [protocolOf_eq]
  exact Separator.not_infix_before (by decide) stem

/-- The test for the files of a protocol finds those from which it was read. -/
theorem protocolOf_eq_iff {protocol : Name} (hprotocol : ¬ runSeparator <:+: protocol)
    (stem : Name) :
    protocolOf stem = protocol ↔ stem = protocol ∨ protocol ++ runSeparator <+: stem := by
  constructor
  · rintro rfl
    by_cases hin : runSeparator <:+: stem
    · rw [protocolOf_eq]
      exact Or.inr (Separator.before_append_isPrefix hin (by decide))
    · exact Or.inl (if_neg hin).symm
  · rw [protocolOf_eq]
    rintro (rfl | hpre)
    · exact Separator.before_eq_self hprotocol
    · exact Separator.before_eq unbordered_runSeparator hpre hprotocol

/-- The protocol that a file is a run of. -/
def fileProtocol (file : Name) : Name := protocolOf ((fileStem file).getD [])

theorem fileStem_of_isCsv {file : Name} (h : isCsv file = true) :
    ∃ stem, fileStem file = some stem := by
  unfold isCsv extension at h
  unfold fileStem
  cases hbefore : (rsplitFileAtDot file).1 with
  | none => simp [hbefore] at h
  | some stem => exact ⟨stem, by simp [hbefore]⟩

theorem mem_discoverProtocols {dir : List Name} {protocol : Name} :
    protocol ∈ discoverProtocols dir ↔ ∃ file ∈ dir.filter isCsv, fileProtocol file = protocol := by
  rw [discoverProtocols, Sorted.mem_dedup, List.mem_mergeSort, List.mem_filterMap]
  refine exists_congr fun file => and_congr_right fun hfile => ?_
  obtain ⟨stem, hstem⟩ := fileStem_of_isCsv (List.mem_filter.mp hfile).2
  simp [fileProtocol, hstem]

theorem nodup_discoverProtocols (dir : List Name) : (discoverProtocols dir).Nodup :=
  Sorted.nodup_dedup (Sorted.pairwise_mergeSort _)

/-- The files found for a protocol are its files. -/
theorem findRunFiles_perm {dir : List Name} {protocol : Name}
    (h : ¬ runSeparator <:+: protocol) :
    (findRunFiles dir protocol).Perm ((dir.filter isCsv).filter (fileProtocol · = protocol)) := by
  refine (List.mergeSort_perm _ _).trans (List.Perm.of_eq ?_)
  rw [List.filter_filter]
  refine List.filter_congr fun file _ => ?_
  rw [Bool.and_comm]
  cases hcsv : isCsv file with
  | false => simp
  | true =>
    obtain ⟨stem, hstem⟩ := fileStem_of_isCsv hcsv
    rw [Bool.eq_iff_iff]
    simp [fileProtocol, hstem, protocolOf_eq_iff h]

theorem not_infix_of_mem_discoverProtocols {dir : List Name} {protocol : Name}
    (h : protocol ∈ discoverProtocols dir) : ¬ runSeparator <:+: protocol := by
  obtain ⟨file, -, rfl⟩ := mem_discoverProtocols.mp h
  exact not_infix_protocolOf _

/-- A protocol that is discovered in one listing has files in each other one. -/
theorem findRunFiles_ne_nil {dir dir' : List Name} (hperm : dir.Perm dir') {protocol : Name}
    (h : protocol ∈ discoverProtocols dir) : findRunFiles dir' protocol ≠ [] := by
  intro hnil
  have hfiles := @findRunFiles_perm dir' _ (not_infix_of_mem_discoverProtocols h)
  obtain ⟨file, hfile, rfl⟩ := mem_discoverProtocols.mp h
  have hmem : file ∈ findRunFiles dir' (fileProtocol file) := by
    rw [hfiles.mem_iff, List.mem_filter, ← (hperm.filter _).mem_iff]
    exact ⟨hfile, decide_eq_true rfl⟩
  rw [hnil] at hmem
  cases hmem

/-! ## The partition -/

/-- The files found for the protocols of a directory share out its results files. -/
structure Partition (dir : List Name) (protocols : List Name) (files : Name → List Name) :
    Prop where
  disjoint : protocols.Pairwise fun p q => (files p).Disjoint (files q)
  nonempty : ∀ p ∈ protocols, files p ≠ []
  sorted : ∀ p ∈ protocols, (files p).Pairwise (· ≤ ·)
  once : (protocols.flatMap files).Perm (dir.filter isCsv)

/-- Discovery partitions a directory, in whatever order each listing of it comes. -/
theorem run_files_partition (dir listed : List Name) (listing : Name → List Name)
    (hlisted : listed.Perm dir) (hlisting : ∀ p, (listing p).Perm dir) :
    Partition dir (discoverProtocols listed) fun p => findRunFiles (listing p) p := by
  have hfiles : ∀ p ∈ discoverProtocols listed,
      (findRunFiles (listing p) p).Perm ((dir.filter isCsv).filter (fileProtocol · = p)) :=
    fun p hp => (findRunFiles_perm (not_infix_of_mem_discoverProtocols hp)).trans
      (((hlisting p).filter _).filter _)
  have hnodup := nodup_discoverProtocols listed
  constructor
  · refine (hnodup.imp_of_mem fun {p q} hp hq hne file hfp hfq => hne ?_)
    rw [(hfiles p hp).mem_iff, List.mem_filter, decide_eq_true_eq] at hfp
    rw [(hfiles q hq).mem_iff, List.mem_filter, decide_eq_true_eq] at hfq
    exact hfp.2.symm.trans hfq.2
  · exact fun p hp => findRunFiles_ne_nil (hlisted.trans (hlisting p).symm) hp
  · exact fun p _ => Sorted.pairwise_mergeSort _
  · refine (List.Perm.flatMap_left _ hfiles).trans
      (Grouping.flatMap_filter_perm fileProtocol hnodup fun file hfile => ?_)
    rw [mem_discoverProtocols]
    exact ⟨file, (hlisted.filter _).mem_iff.mpr hfile, rfl⟩

/-- Protocols of which one begins another, names with several separators, and a file that is
no results file. -/
def mixedNames : List Name :=
  ["udp.csv".toList, "udp_run02.csv".toList, "udp_rerun_run01.csv".toList, "notes.txt".toList,
   "udp_run01_run01.csv".toList, "_run1.csv".toList]

theorem run_files_partition_mixedNames :
    Partition mixedNames (discoverProtocols mixedNames.reverse) fun p =>
      findRunFiles mixedNames p :=
  run_files_partition mixedNames mixedNames.reverse (fun _ => mixedNames)
    mixedNames.reverse_perm fun _ => .refl _

end Stats
end GameSockets
