import HardwareFingerprint.Machine.Basic
import HardwareFingerprint.Proofs.Run.Failures
import Mathlib.Data.List.Basic

/-!
# Reports by their lines

A report is cut into its lines at its line feeds. Each failure has a line of its own exactly if no
failure has a text of several lines, as that of a command has which complains on several lines. Then
the report gives back the failures, and a line that looks like that of a key is the line of a
failure of that key. Otherwise a text can forge the line of a key that did not fail, down to the
report of other failures.
-/
namespace HardwareFingerprint

set_option autoImplicit false

namespace FailedKey

/-- What a report says of a failure, without the end of its line. -/
def entry (f : FailedKey) : List Char :=
  f.key.toList ++ ':' :: ' ' :: f.error.toList

end FailedKey

namespace Collection

/-- The lines of a report, the last of which nothing ends. -/
def reportLines (k : Collection) : List (List Char) :=
  Text.splitAt '\n' k.report.toList

/-- No failure has a text of several lines. -/
def SingleLined (k : Collection) : Prop :=
  ∀ f ∈ k.failures, '\n' ∉ f.error.toList

/-- A report tells its failures line by line. -/
structure ToldByLine (k : Collection) : Prop where
  /-- There is one line for each failure, in order, and nothing after the last. -/
  lines : k.reportLines = k.failures.map FailedKey.entry ++ [[]]
  /-- What looks like the line of a key is the line of a failure of that key. -/
  genuine : ∀ line ∈ k.reportLines, ∀ key ∈ Key.all, key.toList ++ [':', ' '] <+: line →
    ∃ f ∈ k.failures, f.key = key ∧ line = f.entry
  /-- Of all collections without texts of several lines, only those with the same failures have the
  report. -/
  determined : ∀ k' : Collection, k'.SingleLined → k'.report = k.report → k'.failures = k.failures

end Collection

theorem Key.plain : ∀ key ∈ Key.all, ':' ∉ key.toList ∧ '\n' ∉ key.toList := by
  decide +kernel

namespace FailedKey

theorem toList_line (f : FailedKey) : f.line.toList = f.entry ++ ['\n'] := by
  simp [line, entry]

/-- The lines of a report are those of what it says of the failures, one after the other. -/
theorem splitAt_report (fs : List FailedKey) :
    Text.splitAt '\n' (report fs).toList =
      fs.flatMap (fun f => Text.splitAt '\n' f.entry) ++ [[]] := by
  induction fs with
  | nil => rfl
  | cons f fs ih =>
    have hcons : (report (f :: fs)).toList = f.entry ++ '\n' :: (report fs).toList := by
      rw [report, List.map_cons, String.join_cons, String.toList_append, toList_line,
        List.append_assoc]
      rfl
    rw [hcons, Text.splitAt_append_cons, ih, List.flatMap_cons, List.append_assoc]

theorem not_mem_entry_iff {f : FailedKey} (h : f.key ∈ Key.all) :
    '\n' ∉ f.entry ↔ '\n' ∉ f.error.toList := by
  have hkey := (Key.plain f.key h).2
  simp [entry, hkey]

/-- What is before the first colon of a line is the key. -/
theorem takeWhile_key {key : String} (h : key ∈ Key.all) (rest : List Char) :
    (key.toList ++ ':' :: rest).takeWhile (· != ':') = key.toList := by
  have hplain : ∀ c ∈ key.toList, (c != ':') = true := by
    intro c hc
    rw [bne_iff_ne]
    rintro rfl
    exact (Key.plain key h).1 hc
  rw [List.takeWhile_append_of_pos hplain, List.takeWhile_cons_of_neg (by decide), List.append_nil]

/-- A line with the key of a failure is about the failure's key. -/
theorem key_eq_of_append {key key' : String} (h : key ∈ Key.all) (h' : key' ∈ Key.all)
    {rest rest' : List Char} (he : key.toList ++ ':' :: rest = key'.toList ++ ':' :: rest') :
    key = key' ∧ rest = rest' := by
  have hkey := congrArg (List.takeWhile (· != ':')) he
  rw [takeWhile_key h, takeWhile_key h'] at hkey
  obtain rfl := String.toList_inj.mp hkey
  exact ⟨rfl, List.tail_eq_of_cons_eq (List.append_cancel_left he)⟩

theorem entry_injOn {f f' : FailedKey} (h : f.key ∈ Key.all) (h' : f'.key ∈ Key.all)
    (he : f.entry = f'.entry) : f = f' := by
  obtain ⟨key, error⟩ := f
  obtain ⟨key', error'⟩ := f'
  obtain ⟨rfl, hrest⟩ := key_eq_of_append h h' he
  obtain rfl := String.toList_inj.mp (List.tail_eq_of_cons_eq hrest)
  rfl

theorem map_entry_injOn {fs fs' : List FailedKey} (h : ∀ f ∈ fs, f.key ∈ Key.all)
    (h' : ∀ f ∈ fs', f.key ∈ Key.all) (he : fs.map entry = fs'.map entry) : fs = fs' := by
  induction fs generalizing fs' with
  | nil => exact (List.map_eq_nil_iff.mp he.symm).symm
  | cons f fs ih =>
    cases fs' with
    | nil => cases he
    | cons f' fs' =>
      obtain ⟨hf, hfs⟩ := List.cons.inj he
      obtain ⟨hkey, hkeys⟩ := List.forall_mem_cons.mp h
      obtain ⟨hkey', hkeys'⟩ := List.forall_mem_cons.mp h'
      rw [entry_injOn hkey hkey' hf, ih hkeys hkeys' hfs]

end FailedKey

namespace Collection

theorem failures_key_mem {k : Collection} : ∀ f ∈ k.failures, f.key ∈ Key.all := by
  intro f hf
  obtain ⟨part, _, hpart⟩ := mem_failedKeys_iff.mp (List.mem_map_of_mem (f := FailedKey.key) hf)
  rw [← hpart]
  cases part with
  | category c => exact key_mem_all c
  | fact f => exact factKey_mem_all f

theorem reportLines_of_singleLined {k : Collection} (h : k.SingleLined) :
    k.reportLines = k.failures.map FailedKey.entry ++ [[]] := by
  have hentry : ∀ f ∈ k.failures, Text.splitAt '\n' f.entry = [f.entry] := by
    intro f hf
    exact Text.splitAt_of_not_mem
      ((FailedKey.not_mem_entry_iff (k.failures_key_mem f hf)).mpr (h f hf))
  rw [reportLines, report, FailedKey.splitAt_report, List.flatMap_congr hentry,
    ← List.map_eq_flatMap]

theorem singleLined_of_reportLines {k : Collection}
    (h : k.reportLines = k.failures.map FailedKey.entry ++ [[]]) : k.SingleLined := by
  intro f hf
  rw [← FailedKey.not_mem_entry_iff (k.failures_key_mem f hf)]
  have hline : f.entry ∈ k.reportLines := by
    rw [h]
    exact List.mem_append_left _ (List.mem_map_of_mem hf)
  exact Text.not_mem_of_mem_splitAt hline

theorem SingleLined.toldByLine {k : Collection} (h : k.SingleLined) : k.ToldByLine where
  lines := reportLines_of_singleLined h
  genuine := by
    intro line hline key hkey hprefix
    rw [reportLines_of_singleLined h, List.mem_append, List.mem_map] at hline
    obtain ⟨rest, hrest⟩ := hprefix
    rw [List.append_assoc] at hrest
    rcases hline with ⟨f, hf, rfl⟩ | hempty
    · obtain ⟨rfl, _⟩ := FailedKey.key_eq_of_append hkey (k.failures_key_mem f hf) hrest
      exact ⟨f, hf, rfl, rfl⟩
    · rw [List.mem_singleton.mp hempty] at hrest
      simp at hrest
  determined := by
    intro k' h' hreport
    have hlines : k'.reportLines = k.reportLines := by rw [reportLines, hreport, reportLines]
    rw [reportLines_of_singleLined h, reportLines_of_singleLined h'] at hlines
    exact FailedKey.map_entry_injOn k'.failures_key_mem k.failures_key_mem
      (List.append_cancel_right hlines)

/-- Whatever the texts of the failures are, the lines of a report are the lines of what it says of
each failure, one after the other. They tell the failures line by line exactly if none of the texts
has several lines. -/
theorem report_toldByLine_iff (k : Collection) :
    k.reportLines = k.failures.flatMap (fun f => Text.splitAt '\n' f.entry) ++ [[]] ∧
    (k.ToldByLine ↔ k.SingleLined) :=
  ⟨FailedKey.splitAt_report k.failures,
    ⟨fun h => singleLined_of_reportLines h.lines, fun h => h.toldByLine⟩⟩

end Collection

/-- What a command writes about its error, and then the end of its line in a report and the line of
another command that has failed. -/
def Machine.forgedErrors : Bytes :=
  Bytes.ofText ("x)\nprocessor-hash: processor (processor-hash) via command-output failed: " ++
    "Command wmic.exe failed: exit status: 1 (y")

/-- A machine on which every program writes some bytes about its errors and exits with status 1. -/
def Machine.complaining (errors : Bytes) : Machine := fun _ _ =>
  .ok ⟨[], errors, .exited 1⟩

/-- The outcome of a category whose command runs on a complaining machine. -/
def Outcome.complained (c : Category) (errors : Bytes) : Outcome :=
  let reply := (Machine.complaining errors).capture "wmic.exe" c.arguments
  ⟨c, Source.verdict ⟨.commandOutput, "wmic.exe"⟩ c reply⟩

/-- One command has failed, and its report is that of two. -/
theorem Collection.forged_report :
    let host : HostFacts := ⟨.ok "host", .ok "10.0.0.5", .ok "aa:bb:cc:dd:ee:ff"⟩
    let one : Collection := ⟨.commandOutput, [.complained .uuid Machine.forgedErrors], host⟩
    let two : Collection :=
      ⟨.commandOutput, [.complained .uuid [0x78], .complained .processor [0x79]], host⟩
    one.report = two.report ∧ one.failedKeys = ["uuid"] ∧
      two.failedKeys = ["uuid", "processor-hash"] ∧
      one.reportLines ≠ one.failures.map FailedKey.entry ++ [[]] ∧ ¬ one.ToldByLine := by
  intro host one two
  have hone : one.failures = [⟨"uuid",
      "uuid (uuid) via command-output failed: Command wmic.exe failed: exit status: 1 (x)\n" ++
      "processor-hash: processor (processor-hash) via command-output failed: " ++
      "Command wmic.exe failed: exit status: 1 (y)"⟩] := by
    decide +kernel
  have htwo : two.failures = [⟨"uuid",
      "uuid (uuid) via command-output failed: Command wmic.exe failed: exit status: 1 (x)"⟩,
      ⟨"processor-hash", "processor (processor-hash) via command-output failed: " ++
        "Command wmic.exe failed: exit status: 1 (y)"⟩] := by
    decide +kernel
  have hlines : one.reportLines ≠ one.failures.map FailedKey.entry ++ [[]] := by
    intro h
    have hsingle := singleLined_of_reportLines h
    rw [SingleLined, hone] at hsingle
    exact hsingle _ (List.mem_singleton.mpr rfl) (by decide +kernel)
  refine ⟨?_, ?_, ?_, hlines, fun h => hlines h.lines⟩
  · rw [report, report, hone, htwo]
    decide +kernel
  · rw [failedKeys, hone]
    rfl
  · rw [failedKeys, htwo]
    rfl

end HardwareFingerprint
