import SqlAudit.Proofs.Leaves
import SqlAudit.Rules.Builtin

/-! # What a report lists and in which order

A report lists what the enabled rules that do not break down have found, in registration order, with
the severities that the settings ask for. Ranking then brings the worst findings to the front and
leaves findings of equal severity in their order. Severities are all that overrides can change.
-/

namespace SqlAudit

/-! ## Ranking -/

/-- The place of a severity in the ranking, the worst first. -/
def Severity.rank : Severity → Nat
  | .blocker => 0
  | .critical => 1
  | .minor => 2

/-- `ranked` holds the findings of `source`, none lost or repeated, with the worst first and those
of equal severity in the order of `source`. -/
structure StablyRanked (source ranked : List Finding) : Prop where
  perm : ranked.Perm source
  worstFirst : ranked.Pairwise fun a b => a.severity.rank ≤ b.severity.rank
  keepsOrder : ∀ s, ranked.filter (·.severity == s) = source.filter (·.severity == s)

theorem Finding.rank_eq (findings : List Finding) :
    Finding.rank findings =
      findings.filter (·.severity == .blocker) ++ (findings.filter (·.severity == .critical) ++
        findings.filter (·.severity == .minor)) := by
  simp [Finding.rank, Severity.ranking]

/-- Ranking neither loses nor adds a finding. -/
theorem Finding.rank_perm (findings : List Finding) : (Finding.rank findings).Perm findings := by
  rw [List.perm_iff_count]
  intro f
  rw [Finding.rank_eq, List.count_append, List.count_append]
  -- A finding is counted in the part of its own severity only.
  have hpart (s : Severity) : (findings.filter (·.severity == s)).count f =
      if f.severity = s then findings.count f else 0 := by
    split
    next heq => exact List.count_filter (by simp [heq])
    next hne =>
      refine List.count_eq_zero.mpr fun hmem => hne ?_
      simpa using (List.mem_filter.mp hmem).2
  rw [hpart, hpart, hpart]
  cases f.severity <;> simp

/-- No finding stands behind a less severe one. -/
theorem Finding.rank_worstFirst (findings : List Finding) :
    (Finding.rank findings).Pairwise fun a b => a.severity.rank ≤ b.severity.rank := by
  have hseverity {s : Severity} {f : Finding} (hf : f ∈ findings.filter (·.severity == s)) :
      f.severity = s := by
    simpa using (List.mem_filter.mp hf).2
  have hpart (s : Severity) :
      (findings.filter (·.severity == s)).Pairwise fun a b =>
        a.severity.rank ≤ b.severity.rank := by
    refine List.pairwise_of_forall_mem_list fun a ha b hb => Nat.le_of_eq ?_
    rw [hseverity ha, hseverity hb]
  rw [Finding.rank_eq, List.pairwise_append, List.pairwise_append]
  refine ⟨hpart _, ⟨hpart _, hpart _, ?_⟩, ?_⟩
  · intro a ha b hb
    rw [hseverity ha, hseverity hb]
    decide
  · intro a ha b _
    rw [hseverity ha]
    exact Nat.zero_le _

/-- Findings of one severity keep their order. -/
theorem Finding.rank_keepsOrder (findings : List Finding) (s : Severity) :
    (Finding.rank findings).filter (·.severity == s) = findings.filter (·.severity == s) := by
  have hpart (t : Severity) : (findings.filter (·.severity == t)).filter (·.severity == s) =
      if t = s then findings.filter (·.severity == s) else [] := by
    split
    next heq =>
      rw [heq, List.filter_filter]
      simp
    next hne =>
      rw [List.filter_eq_nil_iff]
      intro f hf
      rw [List.mem_filter, beq_iff_eq] at hf
      simpa [hf.2] using hne
  -- Of the three parts only the one of severity `s` is left.
  rw [Finding.rank_eq, List.filter_append, List.filter_append, hpart, hpart, hpart]
  cases s <;> simp

theorem Finding.rank_stablyRanked (findings : List Finding) :
    StablyRanked findings (Finding.rank findings) :=
  ⟨rank_perm findings, rank_worstFirst findings, rank_keepsOrder findings⟩

/-! ## The built-in rules -/

/-- Every built-in rule gives the details of its findings and takes the rest from its description.
-/
theorem builtin_ofDetails :
    ∀ rule ∈ Rules.builtin, ∃ info details, rule = Rule.ofDetails info details := by
  simp only [Rules.builtin, List.forall_mem_cons, List.not_mem_nil, false_implies,
    implies_true, and_true]
  and_intros <;> exact ⟨_, _, rfl⟩

/-- The built-in rules see of a context only the statement, the thresholds, the table that is
altered, the tables that blocks might read whole and the scopes of predicates. -/
theorem builtin_congr_of_views {ctx ctx' : Context} (hstatement : ctx.statement = ctx'.statement)
    (hthresholds : ctx.settings.thresholds = ctx'.settings.thresholds)
    (haltered : Rules.alteredTable ctx = Rules.alteredTable ctx')
    (hcandidates : ∀ block ∈ ctx.statement.selects,
      Rules.scanCandidates ctx block = Rules.scanCandidates ctx' block)
    (hscope : ∀ p ∈ ctx.statement.predicates,
      Scope.ofFrom ctx p.owner.fromItems = Scope.ofFrom ctx' p.owner.fromItems) :
    ∀ rule ∈ Rules.builtin, rule.evaluate ctx = rule.evaluate ctx' := by
  have hdefined : Rules.definedTable ctx = Rules.definedTable ctx' := by
    simp only [Rules.definedTable, hstatement]
  have hscan : Rules.fullScan.evaluate ctx = Rules.fullScan.evaluate ctx' := by
    simp only [Rules.fullScan, Rule.ofDetails, ← hstatement]
    refine congrArg (fun details => some (List.map _ details))
      (List.flatMap_congr fun block hblock => ?_)
    rw [Rules.fullScanOf, Rules.fullScanOf, hcandidates block hblock]
  have hconversion : Rules.implicitTypeConversion.evaluate ctx =
      Rules.implicitTypeConversion.evaluate ctx' := by
    simp only [Rules.implicitTypeConversion, Rule.ofDetails, ← hstatement]
    refine congrArg (fun details => some (List.map _ details)) (List.flatMap_congr fun p hp => ?_)
    rw [hscope p hp]
  simp only [Rules.builtin, List.forall_mem_cons, List.not_mem_nil, false_implies,
    implies_true, and_true, hscan, hconversion, Rules.selectStar, Rules.multiJoin,
    Rules.limitWithoutOrder, Rules.deepOffset, Rules.havingToWhere, Rules.nullComparison,
    Rules.fieldArithmetic, Rules.missingPrimaryKey, Rules.tooManyIndexes, Rules.oversizedFieldType,
    Rules.avoidForeignKey, Rules.riskyTypeChange, Rules.addColumnLargeTable,
    Rules.dropColumnWithIndex, Rules.dropIndexVerification, Rule.ofDetails, hstatement, hthresholds,
    haltered, hdefined]

/-- The built-in rules see of a context only the statement, the tables it finds and the thresholds.
-/
theorem builtin_congr {ctx ctx' : Context} (hstatement : ctx.statement = ctx'.statement)
    (htable : ctx.table? = ctx'.table?)
    (hthresholds : ctx.settings.thresholds = ctx'.settings.thresholds) :
    ∀ rule ∈ Rules.builtin, rule.evaluate ctx = rule.evaluate ctx' := by
  refine builtin_congr_of_views hstatement hthresholds ?_ (fun block _ => ?_) (fun p _ => ?_)
  · simp only [Rules.alteredTable, hstatement, htable]
  · rw [Rules.scanCandidates, Rules.scanCandidates, htable, hthresholds]
  · rw [Scope.ofFrom_congr htable]

/-! ## The findings of a report -/

/-- What the enabled rules that do not break down find, in registration order. -/
def emissions (rules : List Rule) (ctx : Context) : List Finding :=
  rules.flatMap fun rule =>
    if ctx.settings.isDisabled rule.info.id then [] else (rule.evaluate ctx).getD []

/-- The severity the settings ask for: the override of the finding's rule id, provided an enabled
rule has that id and the override is the word for a severity; otherwise the severity the rule gave.
-/
def finalSeverity (rules : List Rule) (settings : Settings) (f : Finding) : Severity :=
  if ∃ rule ∈ rules, settings.isDisabled rule.info.id = false ∧ rule.info.id = f.ruleId then
    ((settings.severity.lookup f.ruleId).bind Severity.ofWord).getD f.severity
  else f.severity

/-- The enabled rules are asked in order, and a rule that breaks down gives nothing. -/
theorem emissions_eq (rules : List Rule) (ctx : Context) :
    emissions rules ctx =
      (ctx.settings.enabled rules).flatMap fun rule => (rule.evaluate ctx).getD [] := by
  induction rules with
  | nil => rfl
  | cons rule rest ih =>
      rw [emissions, Settings.enabled] at *
      rw [List.flatMap_cons, ih, List.filter_cons]
      cases ctx.settings.isDisabled rule.info.id <;> simp

/-- Only the severity of a finding is adjusted. -/
theorem Settings.adjust_eq (settings : Settings) (rules : List Rule) (f : Finding) :
    settings.adjust rules f = { f with severity := finalSeverity rules settings f } := by
  have henabled : (settings.enabled rules).any (·.info.id == f.ruleId) = true ↔
      ∃ rule ∈ rules, settings.isDisabled rule.info.id = false ∧ rule.info.id = f.ruleId := by
    simp [Settings.enabled]
  rw [Settings.adjust, Settings.override?, finalSeverity]
  by_cases hrule : ∃ rule ∈ rules, settings.isDisabled rule.info.id = false ∧
    rule.info.id = f.ruleId
  · rw [if_pos hrule, if_pos (henabled.mpr hrule)]
    cases (settings.severity.lookup f.ruleId).bind Severity.ofWord <;> rfl
  · rw [if_neg hrule, if_neg fun h => hrule (henabled.mp h)]

/-- The findings of a report are the emissions with their final severities, ranked. -/
theorem review_findings_eq (rules : List Rule) (settings : Settings) (catalog : Catalog)
    (statement : Statement) :
    (review rules settings catalog statement).findings =
      Finding.rank ((emissions rules ⟨statement, catalog, settings⟩).map fun f =>
        { f with severity := finalSeverity rules settings f }) := by
  rw [emissions_eq]
  exact congrArg Finding.rank (List.map_congr_left fun f _ => settings.adjust_eq rules f)

/-- What a finding says, its severity left aside. -/
def Finding.content (f : Finding) : String × String :=
  (f.ruleId, f.detail)

/-- A report holds exactly the contents that the enabled rules have found. -/
theorem review_contents_perm (rules : List Rule) (settings : Settings) (catalog : Catalog)
    (statement : Statement) :
    ((review rules settings catalog statement).findings.map Finding.content).Perm
      ((emissions rules ⟨statement, catalog, settings⟩).map Finding.content) := by
  have hperm := (Finding.rank_perm ((emissions rules ⟨statement, catalog, settings⟩).map fun f =>
    { f with severity := finalSeverity rules settings f })).map Finding.content
  rw [List.map_map] at hperm
  rw [review_findings_eq]
  exact hperm

/-- The report lists what the enabled rules that did not break down have found, with overridden
severities, ranked with the worst first and otherwise in registration order. Overrides change
nothing else: as long as the rules answer alike, reviews under two tables of overrides have the same
contents. -/
theorem review_lists_emissions_ranked (rules : List Rule) (settings : Settings) (catalog : Catalog)
    (statement : Statement) :
    StablyRanked
      ((emissions rules ⟨statement, catalog, settings⟩).map fun f =>
        { f with severity := finalSeverity rules settings f })
      (review rules settings catalog statement).findings ∧
    ((review rules settings catalog statement).findings.map Finding.content).Perm
      ((emissions rules ⟨statement, catalog, settings⟩).map Finding.content) ∧
    ∀ overrides : List (String × String),
      (∀ rule ∈ rules, rule.evaluate ⟨statement, catalog, { settings with severity := overrides }⟩ =
        rule.evaluate ⟨statement, catalog, settings⟩) →
      ((review rules { settings with severity := overrides } catalog statement).findings.map
          Finding.content).Perm
        ((review rules settings catalog statement).findings.map Finding.content) := by
  refine ⟨?_, review_contents_perm rules settings catalog statement, ?_⟩
  · rw [review_findings_eq]
    exact Finding.rank_stablyRanked _
  · intro overrides hanswers
    have hemissions :
        emissions rules ⟨statement, catalog, { settings with severity := overrides }⟩ =
          emissions rules ⟨statement, catalog, settings⟩ := by
      rw [emissions, emissions, List.flatMap_def, List.flatMap_def]
      refine congrArg List.flatten (List.map_congr_left fun rule hrule => ?_)
      rw [hanswers rule hrule]
      rfl
    refine (review_contents_perm _ _ _ _).trans ?_
    rw [hemissions]
    exact (review_contents_perm _ _ _ _).symm

/-- The definition of a table `log` with one column of type `TEXT` and no primary key. -/
def logTable : CreateTable :=
  ⟨⟨["log"]⟩, [⟨"msg", "TEXT", []⟩], []⟩

/-- The built-in rules answer alike under other overrides, so a definition of a table is reported
with the same contents when the severities of its two findings are exchanged. -/
theorem review_lists_emissions_ranked_builtin :
    (∀ rule ∈ Rules.builtin,
      rule.evaluate ⟨.createTable logTable, .empty, { ({} : Settings) with severity :=
        [("missing-primary-key", "Minor"), ("oversized-field-type", "blocker")] }⟩ =
      rule.evaluate ⟨.createTable logTable, .empty, {}⟩) ∧
    ((review Rules.builtin { ({} : Settings) with severity :=
        [("missing-primary-key", "Minor"), ("oversized-field-type", "blocker")] } .empty
        (.createTable logTable)).findings.map Finding.content).Perm
      ((review Rules.builtin {} .empty (.createTable logTable)).findings.map Finding.content) :=
  ⟨builtin_congr rfl rfl rfl,
    (review_lists_emissions_ranked Rules.builtin {} .empty (.createTable logTable)).2.2 _
      (builtin_congr rfl rfl rfl)⟩

end SqlAudit
