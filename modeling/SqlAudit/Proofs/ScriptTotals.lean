import Mathlib.Order.Lattice.Nat
import SqlAudit.Review.ScriptReport

/-! # Totals and exit codes of scripts

The summary of a script adds up counts report by report. The exit code takes the worst severity of
every report that has findings, and of these the worst again. Both only depend on the findings of
all reports taken together: the summary has how many there are of each severity, and the exit code
is the largest code that one of them asks for. So they agree with one another, and a script in two
parts has the sum of the totals and the larger of the exit codes.
-/

namespace SqlAudit

namespace ScriptEntry

/-- The findings of all reports of a script, in script order. -/
def allFindings (entries : List ScriptEntry) : List Finding :=
  entries.flatMap (·.report.findings)

theorem allFindings_append (first second : List ScriptEntry) :
    allFindings (first ++ second) = allFindings first ++ allFindings second :=
  List.flatMap_append

/-! ## Counts -/

/-- Counts added up report by report count the findings of all reports. -/
theorem countAll_eq (entries : List ScriptEntry) (s : Severity) :
    countAll entries s = (allFindings entries).countP (·.severity == s) := by
  induction entries with
  | nil => rfl
  | cons entry rest ih =>
      have hentry : allFindings (entry :: rest) = entry.report.findings ++ allFindings rest :=
        List.flatMap_cons
      rw [hentry, List.countP_append, ← ih]
      rfl

/-- The counts of two parts of a script add up. -/
theorem countAll_append (first second : List ScriptEntry) (s : Severity) :
    countAll (first ++ second) s = countAll first s + countAll second s := by
  rw [countAll_eq, countAll_eq, countAll_eq, allFindings_append, List.countP_append]

/-- A count is positive if there is a finding of that severity. -/
theorem countAll_pos_iff {entries : List ScriptEntry} {s : Severity} :
    0 < countAll entries s ↔ ∃ f ∈ allFindings entries, f.severity = s := by
  simp only [countAll_eq, List.countP_pos_iff, beq_iff_eq]

end ScriptEntry

/-- Every finding is counted under exactly one severity. -/
theorem Finding.length_eq_counts (findings : List Finding) :
    findings.length = findings.countP (·.severity == .blocker) +
      findings.countP (·.severity == .critical) + findings.countP (·.severity == .minor) := by
  induction findings with
  | nil => rfl
  | cons f rest ih =>
      simp only [List.length_cons, List.countP_cons, ih]
      cases f.severity <;> simp <;> omega

/-! ## Exit codes -/

/-- Without severities there is no worst one; otherwise it is one of them and asks for the largest
code. -/
theorem Severity.worst_cases (all : List Severity) :
    (all = [] ∧ worst all = none) ∨
      ∃ s ∈ all, worst all = some s ∧ ∀ other ∈ all, other.exitCode ≤ s.exitCode := by
  by_cases hblocker : Severity.blocker ∈ all
  · refine Or.inr ⟨.blocker, hblocker, by simp [worst, ranking, hblocker], fun other _ => ?_⟩
    cases other <;> decide
  · by_cases hcritical : Severity.critical ∈ all
    · refine Or.inr ⟨.critical, hcritical, by simp [worst, ranking, hblocker, hcritical], ?_⟩
      intro other hother
      cases other with
      | blocker => exact absurd hother hblocker
      | _ => decide
    · by_cases hminor : Severity.minor ∈ all
      · refine Or.inr ⟨.minor, hminor, by simp [worst, ranking, hblocker, hcritical, hminor], ?_⟩
        intro other hother
        cases other with
        | blocker => exact absurd hother hblocker
        | critical => exact absurd hother hcritical
        | minor => exact Nat.le_refl _
      · refine Or.inl ⟨List.eq_nil_iff_forall_not_mem.mpr fun s hs => ?_, ?_⟩
        · cases s <;> contradiction
        · simp [worst, ranking, hblocker, hcritical, hminor]

/-- The code of the worst severity is reached by one of the severities, and no other asks for more.
-/
theorem Severity.le_exitCode_worst_iff {n : Nat} (hn : 0 < n) (all : List Severity) :
    n ≤ ((worst all).map exitCode).getD 0 ↔ ∃ s ∈ all, n ≤ s.exitCode := by
  rcases worst_cases all with ⟨rfl, hnone⟩ | ⟨s, hs, hsome, hmost⟩
  · simp only [hnone, Option.map_none, Option.getD_none, List.not_mem_nil, false_and,
      exists_false, iff_false]
    omega
  · rw [hsome, Option.map_some, Option.getD_some]
    constructor
    · intro hle
      exact ⟨s, hs, hle⟩
    · rintro ⟨other, hother, hle⟩
      exact hle.trans (hmost other hother)

/-- The exit code of a script is the largest code that a finding of any report asks for. -/
theorem le_exitCode_iff {n : Nat} (hn : 0 < n) (entries : List ScriptEntry) :
    n ≤ exitCode entries ↔ ∃ f ∈ ScriptEntry.allFindings entries, n ≤ f.severity.exitCode := by
  rw [exitCode, Severity.le_exitCode_worst_iff hn]
  simp only [ScriptEntry.allFindings, List.mem_filterMap, List.mem_flatMap]
  constructor
  · rintro ⟨s, ⟨entry, hentry, hworst⟩, hle⟩
    have hreport : n ≤ ((Severity.worst (entry.report.findings.map (·.severity))).map
        Severity.exitCode).getD 0 := by
      rw [← Report.maxSeverity, hworst]
      exact hle
    obtain ⟨_, hs, hle⟩ := (Severity.le_exitCode_worst_iff hn _).mp hreport
    obtain ⟨f, hf, rfl⟩ := List.mem_map.mp hs
    exact ⟨f, ⟨entry, hentry, hf⟩, hle⟩
  · rintro ⟨f, ⟨entry, hentry, hf⟩, hle⟩
    rcases Severity.worst_cases (entry.report.findings.map (·.severity)) with
      ⟨hempty, -⟩ | ⟨s, -, hworst, hmost⟩
    · rw [List.map_eq_nil_iff.mp hempty] at hf
      cases hf
    · exact ⟨s, ⟨entry, hentry, hworst⟩, hle.trans (hmost _ (List.mem_map_of_mem hf))⟩

/-- The exit code of a script is the worse one of its parts. -/
theorem exitCode_append (first second : List ScriptEntry) :
    exitCode (first ++ second) = max (exitCode first) (exitCode second) := by
  refine eq_of_forall_le_iff fun n => ?_
  rcases Nat.eq_zero_or_pos n with rfl | hn
  · simp
  · rw [le_max_iff, le_exitCode_iff hn, le_exitCode_iff hn, le_exitCode_iff hn,
      ScriptEntry.allFindings_append]
    simp only [List.mem_append, or_and_right, exists_or]

theorem two_le_exitCode_iff (entries : List ScriptEntry) :
    2 ≤ exitCode entries ↔ 0 < ScriptEntry.countAll entries .blocker := by
  rw [le_exitCode_iff (by decide), ScriptEntry.countAll_pos_iff]
  refine exists_congr fun f => and_congr_right fun _ => ?_
  cases f.severity <;> decide

theorem one_le_exitCode_iff (entries : List ScriptEntry) :
    1 ≤ exitCode entries ↔
      0 < ScriptEntry.countAll entries .blocker ∨ 0 < ScriptEntry.countAll entries .critical := by
  rw [le_exitCode_iff (by decide), ScriptEntry.countAll_pos_iff,
    ScriptEntry.countAll_pos_iff, ← exists_or]
  refine exists_congr fun f => ?_
  rw [← and_or_left]
  refine and_congr_right fun _ => ?_
  cases f.severity <;> decide

theorem exitCode_le_two (entries : List ScriptEntry) : exitCode entries ≤ 2 := by
  refine Nat.le_of_not_lt fun hlt => ?_
  obtain ⟨f, -, hle⟩ := (le_exitCode_iff (n := 3) (by decide) entries).mp hlt
  cases hseverity : f.severity <;> rw [hseverity] at hle <;> exact absurd hle (by decide)

/-- The summary of a script counts each finding of its reports once, under its severity. The exit
code is 2 if there are blockers, 1 if there are none but critical findings, and 0 otherwise. For two
scripts one after the other the summaries add up field by field, and the exit code is the larger
one. -/
theorem summary_counts_and_exitCode_agree (entries more : List ScriptEntry) :
    ((Summary.ofEntries entries).statements = entries.length ∧
      (Summary.ofEntries entries).blocker =
        (entries.flatMap (·.report.findings)).countP (·.severity == .blocker) ∧
      (Summary.ofEntries entries).critical =
        (entries.flatMap (·.report.findings)).countP (·.severity == .critical) ∧
      (Summary.ofEntries entries).minor =
        (entries.flatMap (·.report.findings)).countP (·.severity == .minor) ∧
      (Summary.ofEntries entries).blocker + (Summary.ofEntries entries).critical +
        (Summary.ofEntries entries).minor = (entries.flatMap (·.report.findings)).length) ∧
    ((exitCode entries = 2 ↔ 0 < (Summary.ofEntries entries).blocker) ∧
      (exitCode entries = 1 ↔
        (Summary.ofEntries entries).blocker = 0 ∧ 0 < (Summary.ofEntries entries).critical) ∧
      (exitCode entries = 0 ↔
        (Summary.ofEntries entries).blocker = 0 ∧ (Summary.ofEntries entries).critical = 0)) ∧
    Summary.ofEntries (entries ++ more) =
      { statements := (Summary.ofEntries entries).statements + (Summary.ofEntries more).statements
        blocker := (Summary.ofEntries entries).blocker + (Summary.ofEntries more).blocker
        critical := (Summary.ofEntries entries).critical + (Summary.ofEntries more).critical
        minor := (Summary.ofEntries entries).minor + (Summary.ofEntries more).minor } ∧
    exitCode (entries ++ more) = max (exitCode entries) (exitCode more) := by
  have hcount := ScriptEntry.countAll_eq entries
  refine ⟨⟨rfl, hcount .blocker, hcount .critical, hcount .minor, ?_⟩, ?_, ?_,
    exitCode_append entries more⟩
  · simp only [Summary.ofEntries, hcount]
    exact (Finding.length_eq_counts _).symm
  · have htwo := two_le_exitCode_iff entries
    have hone := one_le_exitCode_iff entries
    have hmost := exitCode_le_two entries
    simp only [Summary.ofEntries]
    omega
  · simp only [Summary.ofEntries, ScriptEntry.countAll_append, List.length_append]

end SqlAudit
