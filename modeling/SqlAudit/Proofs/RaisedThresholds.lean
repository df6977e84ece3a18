import SqlAudit.Proofs.FindingCounts
import SqlAudit.Proofs.ScriptTotals
import SqlAudit.Script

/-! # Raised thresholds

Every threshold is a limit that something must exceed to be reported. Raising thresholds leaves
fewer things that exceed them, so no rule finds more. For whole table reads a threshold selects the
tables that count: without a filter there is one finding for each of them, and with one there is a
single finding as long as a table is left. As a rule gives all its findings one severity, a report
keeps at most the rule ids and severities that it had, and the exit code of a script does not rise.
-/

namespace SqlAudit

/-- No threshold falls from the first to the second. -/
structure Thresholds.AtMost (low high : Thresholds) : Prop where
  smallTableRows : low.smallTableRows ≤ high.smallTableRows
  maxJoinTables : low.maxJoinTables ≤ high.maxJoinTables
  maxOffset : low.maxOffset ≤ high.maxOffset
  maxTableIndexes : low.maxTableIndexes ≤ high.maxTableIndexes
  largeTableRows : low.largeTableRows ≤ high.largeTableRows

/-- The settings with other thresholds. -/
def Settings.withThresholds (settings : Settings) (thresholds : Thresholds) : Settings :=
  { settings with thresholds }

/-! ## Rules -/

/-- Raising thresholds does not make the rule find more. -/
def Rule.FindsNoMore (rule : Rule) : Prop :=
  ∀ (s : Statement) (catalog : Catalog) (settings : Settings) (high : Thresholds),
    settings.thresholds.AtMost high →
      rule.count ⟨s, catalog, settings.withThresholds high⟩ ≤ rule.count ⟨s, catalog, settings⟩

/-- Fewer entries exceed a higher limit. -/
theorem length_filter_gt_le {α : Type} (size : α → Nat) {low high : Nat} (hle : low ≤ high)
    (l : List α) :
    (l.filter (size · > high)).length ≤ (l.filter (size · > low)).length := by
  refine (List.monotone_filter_right l fun a hexceeds => ?_).length_le
  have hhigh : size a > high := by simpa using hexceeds
  simpa using Nat.lt_of_le_of_lt hle hhigh

theorem length_flatMap_le {α β : Type} {f g : α → List β} {l : List α}
    (hf : ∀ a ∈ l, (f a).length ≤ (g a).length) : (l.flatMap f).length ≤ (l.flatMap g).length := by
  rw [List.length_flatMap, List.length_flatMap]
  exact List.sum_le_sum hf

/-- The rules that do not look at thresholds. -/
theorem otherRules_findNoMore :
    ∀ rule ∈ [Rules.selectStar, Rules.limitWithoutOrder, Rules.havingToWhere, Rules.nullComparison,
      Rules.implicitTypeConversion, Rules.fieldArithmetic, Rules.missingPrimaryKey,
      Rules.oversizedFieldType, Rules.avoidForeignKey, Rules.riskyTypeChange,
      Rules.dropColumnWithIndex, Rules.dropIndexVerification], rule.FindsNoMore := by
  have hscope (s : Statement) (catalog : Catalog) (settings : Settings) (high : Thresholds) :
      Scope.ofFrom ⟨s, catalog, settings.withThresholds high⟩ =
        Scope.ofFrom ⟨s, catalog, settings⟩ :=
    Scope.ofFrom_congr rfl
  have hconversion : Rules.implicitTypeConversion.FindsNoMore := by
    intro s catalog settings high _
    rw [Rules.implicitTypeConversion, Rule.count_ofDetails, Rule.count_ofDetails]
    simp only [hscope]
    exact Nat.le_refl _
  simp only [List.forall_mem_cons]
  refine ⟨?_, ?_, ?_, ?_, hconversion, ?_, ?_, ?_, ?_, ?_, ?_, ?_, List.forall_mem_nil _⟩ <;>
    exact fun s catalog settings high _ => Nat.le_refl _

namespace Rules

theorem multiJoin_findsNoMore : multiJoin.FindsNoMore := by
  intro s catalog settings high hraised
  simp only [multiJoin, Rule.count_ofDetails, List.length_map]
  exact length_filter_gt_le Select.tableCount hraised.maxJoinTables s.selects

theorem deepOffset_findsNoMore : deepOffset.FindsNoMore := by
  intro s catalog settings high hraised
  simp only [deepOffset, Rule.count_ofDetails, List.length_map]
  exact length_filter_gt_le id hraised.maxOffset _

theorem tooManyIndexes_findsNoMore : tooManyIndexes.FindsNoMore := by
  intro s catalog settings high hraised
  simp only [tooManyIndexes, Rule.count_ofDetails, List.length_map]
  exact length_filter_gt_le secondaryIndexCount hraised.maxTableIndexes _

/-- How many columns are added does not depend on the limit that the remarks name. -/
theorem length_filterMap_addedColumnOf (table : Table) (rows limit limit' : Nat)
    (operations : List AlterOperation) :
    (operations.filterMap (addedColumnOf table rows limit)).length =
      (operations.filterMap (addedColumnOf table rows limit')).length := by
  rw [List.length_filterMap_eq_countP, List.length_filterMap_eq_countP]
  refine List.countP_congr fun op _ => ?_
  cases op <;> rfl

theorem addColumnLargeTable_findsNoMore : addColumnLargeTable.FindsNoMore := by
  intro s catalog settings high hraised
  have haltered : alteredTable ⟨s, catalog, settings.withThresholds high⟩ =
      alteredTable ⟨s, catalog, settings⟩ := rfl
  rw [addColumnLargeTable, Rule.count_ofDetails, Rule.count_ofDetails, haltered]
  cases alteredTable ⟨s, catalog, settings⟩ with
  | none => exact Nat.le_refl _
  | some found =>
      obtain ⟨change, table⟩ := found
      dsimp only
      cases table.rowCount with
      | none => exact Nat.le_refl _
      | some rows =>
          dsimp only
          by_cases hexceeds : rows > (settings.withThresholds high).thresholds.largeTableRows
          · have hlow : rows > settings.thresholds.largeTableRows :=
              Nat.lt_of_le_of_lt hraised.largeTableRows hexceeds
            rw [if_pos hlow, if_pos hexceeds]
            exact Nat.le_of_eq (length_filterMap_addedColumnOf table rows _ _ change.operations)
          · rw [if_neg hexceeds]
            exact Nat.zero_le _

/-- A higher bound for small tables leaves fewer candidates. -/
theorem length_scanCandidates_le (s : Statement) (catalog : Catalog) {settings : Settings}
    {high : Thresholds} (hraised : settings.thresholds.AtMost high) (block : Select) :
    (scanCandidates ⟨s, catalog, settings.withThresholds high⟩ block).length ≤
      (scanCandidates ⟨s, catalog, settings⟩ block).length :=
  length_filter_gt_le Prod.snd hraised.smallTableRows _

theorem fullScan_findsNoMore : fullScan.FindsNoMore := by
  intro s catalog settings high hraised
  rw [fullScan, Rule.count_ofDetails, Rule.count_ofDetails]
  refine length_flatMap_le fun block _ => ?_
  have hcandidates := length_scanCandidates_le s catalog hraised block
  rw [length_fullScanOf, length_fullScanOf]
  cases block.filter with
  | none => exact hcandidates
  | some filter =>
      dsimp only
      -- With a filter a single finding is left as long as there are candidates.
      cases hlow : scanCandidates ⟨s, catalog, settings⟩ block with
      | nil =>
          rw [hlow] at hcandidates
          rw [List.length_eq_zero_iff.mp (Nat.le_zero.mp hcandidates)]
      | cons first rest =>
          cases (scanShape filter).isSome with
          | false => simp
          | true =>
              simp only [List.isEmpty_cons, Bool.not_false, Bool.and_self, Bool.and_true, if_true]
              split
              next => exact Nat.le_refl _
              next => exact Nat.zero_le _

end Rules

/-- No rule finds more with higher thresholds. -/
theorem builtin_findNoMore : ∀ rule ∈ Rules.builtin, rule.FindsNoMore := by
  have hothers := otherRules_findNoMore
  simp only [List.forall_mem_cons] at hothers
  obtain ⟨hstar, hlimit, hhaving, hnull, hconversion, harithmetic, hprimary, hoversized, hforeign,
    htype, hdrop, hindex, hnil⟩ := hothers
  simp only [Rules.builtin, List.forall_mem_cons]
  exact ⟨Rules.fullScan_findsNoMore, hstar, Rules.multiJoin_findsNoMore, hlimit,
    Rules.deepOffset_findsNoMore, hhaving, hnull, hconversion, harithmetic, hprimary,
    Rules.tooManyIndexes_findsNoMore, hoversized, hforeign, htype,
    Rules.addColumnLargeTable_findsNoMore, hdrop, hindex, hnil⟩

/-! ## Reports and scripts -/

/-- Under higher thresholds a report shows some of the rule ids and severities that it showed
before. -/
theorem review_tags_sublist {settings : Settings} {high : Thresholds}
    (hraised : settings.thresholds.AtMost high) (catalog : Catalog) (s : Statement) :
    ((review Rules.builtin (settings.withThresholds high) catalog s).findings.map
      Finding.tag).Sublist
      ((review Rules.builtin settings catalog s).findings.map Finding.tag) := by
  have hemissions :
      ((emissions Rules.builtin ⟨s, catalog, settings.withThresholds high⟩).map Finding.tag).Sublist
        ((emissions Rules.builtin ⟨s, catalog, settings⟩).map Finding.tag) := by
    rw [emissions_builtin_tags, emissions_builtin_tags]
    refine List.Sublist.flatMap_right _ fun rule hrule => ?_
    have hcount := builtin_findNoMore rule hrule s catalog settings high hraised
    have hdisabled : (settings.withThresholds high).isDisabled rule.info.id =
        settings.isDisabled rule.info.id := rfl
    dsimp only
    rw [hdisabled]
    split
    next => exact List.Sublist.refl _
    next => exact (List.replicate_sublist_replicate _).mpr hcount
  rw [review_tags_eq, review_tags_eq]
  exact List.Sublist.flatMap_right _ fun _ _ => (hemissions.map _).filter _

theorem mem_allFindings_review {rules : List Rule} {settings : Settings} {catalog : Catalog}
    {script : List ScriptStatement} {f : Finding} :
    f ∈ ScriptEntry.allFindings (Script.review rules settings catalog script) ↔
      ∃ s ∈ script, f ∈ (review rules settings catalog s.statement).findings := by
  simp only [ScriptEntry.allFindings, Script.review, List.mem_flatMap, List.mem_mapIdx]
  constructor
  · rintro ⟨_, ⟨i, hi, rfl⟩, hf⟩
    exact ⟨script[i], List.getElem_mem hi, hf⟩
  · rintro ⟨s, hs, hf⟩
    obtain ⟨i, hi, rfl⟩ := List.mem_iff_getElem.mp hs
    exact ⟨_, ⟨i, hi, rfl⟩, hf⟩

/-- The exit code is no worse with higher thresholds. -/
theorem exitCode_review_le {settings : Settings} {high : Thresholds}
    (hraised : settings.thresholds.AtMost high) (catalog : Catalog)
    (script : List ScriptStatement) :
    exitCode (Script.review Rules.builtin (settings.withThresholds high) catalog script) ≤
      exitCode (Script.review Rules.builtin settings catalog script) := by
  rcases Nat.eq_zero_or_pos
    (exitCode (Script.review Rules.builtin (settings.withThresholds high) catalog script)) with
      hzero | hpos
  · rw [hzero]
    exact Nat.zero_le _
  · -- The finding that asks for the exit code has a counterpart of the same severity under the
    -- lower thresholds.
    obtain ⟨f, hf, hcode⟩ := (le_exitCode_iff hpos _).mp (Nat.le_refl _)
    obtain ⟨s, hs, hf⟩ := mem_allFindings_review.mp hf
    have htag := (review_tags_sublist hraised catalog s.statement).subset (List.mem_map_of_mem hf)
    obtain ⟨before, hbefore, htags⟩ := List.mem_map.mp htag
    have hseverity : before.severity = f.severity := congrArg Prod.snd htags
    refine (le_exitCode_iff hpos _).mpr ⟨before, mem_allFindings_review.mpr ⟨s, hs, hbefore⟩, ?_⟩
    rw [hseverity]
    exact hcode

/-- Take settings and the same settings with thresholds of which none is lower. Then every built-in
rule has at most as many findings in a statement under the higher thresholds, and the exit code of a
script is not larger. -/
theorem raised_thresholds_find_no_more (settings : Settings) (high : Thresholds)
    (hraised : settings.thresholds.AtMost high) (catalog : Catalog) :
    (∀ (s : Statement), ∀ rule ∈ Rules.builtin, ∃ found fewer,
      rule.evaluate ⟨s, catalog, settings⟩ = some found ∧
      rule.evaluate ⟨s, catalog, { settings with thresholds := high }⟩ = some fewer ∧
      fewer.length ≤ found.length) ∧
    ∀ script : List ScriptStatement,
      exitCode (Script.review Rules.builtin { settings with thresholds := high } catalog script) ≤
        exitCode (Script.review Rules.builtin settings catalog script) := by
  refine ⟨fun s rule hrule => ?_, exitCode_review_le hraised catalog⟩
  have hcount := builtin_findNoMore rule hrule s catalog settings high hraised
  obtain ⟨found, hfound, hlength⟩ := builtin_finds ⟨s, catalog, settings⟩ rule hrule
  obtain ⟨fewer, hfewer, hlength'⟩ :=
    builtin_finds ⟨s, catalog, settings.withThresholds high⟩ rule hrule
  refine ⟨found, fewer, hfound, hfewer, ?_⟩
  rw [hlength, hlength']
  exact hcount

/-- `SELECT x FROM a JOIN b`. -/
def unfilteredJoin : Statement :=
  .query ⟨[], .select ⟨false, [.expr (.column ⟨none, "x"⟩) none],
    [⟨.table ⟨["a"]⟩ none, [⟨.table ⟨["b"]⟩ none, none⟩]⟩], none, [], none⟩, [], none, none⟩

/-- Tables `a` and `b` of ten and of a hundred rows. -/
def tenAndHundredRows : Catalog :=
  ((Catalog.empty.insert (.named "a")).insert (.named "b")).setRowCount "a" 10
    |>.setRowCount "b" 100

/-- Both tables are read whole. If tables of ten rows are small, only one of them is still reported.
-/
theorem raised_thresholds_find_no_more_join :
    (({} : Settings).thresholds.AtMost { smallTableRows := 10 } ∧ Rules.fullScan ∈ Rules.builtin) ∧
    (∃ found fewer,
      Rules.fullScan.evaluate ⟨unfilteredJoin, tenAndHundredRows, {}⟩ = some found ∧
      Rules.fullScan.evaluate ⟨unfilteredJoin, tenAndHundredRows,
        { thresholds := { smallTableRows := 10 } }⟩ =
        some fewer ∧
      fewer.length ≤ found.length) ∧
    exitCode (Script.review Rules.builtin { thresholds := { smallTableRows := 10 } }
      tenAndHundredRows
        [⟨"SELECT x FROM a JOIN b", unfilteredJoin⟩]) ≤
      exitCode (Script.review Rules.builtin {} tenAndHundredRows
        [⟨"SELECT x FROM a JOIN b", unfilteredJoin⟩]) ∧
    Rules.fullScan.count ⟨unfilteredJoin, tenAndHundredRows, {}⟩ = 2 ∧
    Rules.fullScan.count ⟨unfilteredJoin, tenAndHundredRows,
      { thresholds := { smallTableRows := 10 } }⟩ = 1 := by
  have hraised : ({} : Settings).thresholds.AtMost { smallTableRows := 10 } := by
    constructor <;> decide
  have hrule : Rules.fullScan ∈ Rules.builtin := List.mem_cons_self
  obtain ⟨hfewer, hexit⟩ := raised_thresholds_find_no_more {} _ hraised tenAndHundredRows
  refine ⟨⟨hraised, hrule⟩, hfewer unfilteredJoin Rules.fullScan hrule, hexit _, ?_, ?_⟩
  · decide +kernel
  · decide +kernel

end SqlAudit
