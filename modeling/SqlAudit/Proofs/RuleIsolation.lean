import Mathlib.Data.List.Nodup
import SqlAudit.Proofs.Ranking

/-! # Rules that are switched off or break down

Switching rules off and rules breaking down take findings out of a report and do nothing else. The
two runs that are compared differ in the rules that take part, in the overrides that apply and in
what is ranked; the findings of the remaining rules come out the same and in the same order.

A finding is traced back to its rule by the rule id, so the rules of a registry have to have
different ids and put them on their findings. A rule is handed the settings whole, the list of
disabled ids among them. A remaining rule that answers otherwise because of that list changes the
report by itself, and ids that differ in the case of a letter outside ASCII are different ids;
`review_hears_disabled_list` has a registry for each.
-/

namespace SqlAudit

/-! ## Two runs of a registry -/

/-- The settings with no rule switched off. -/
def Settings.withAllRules (settings : Settings) : Settings :=
  { settings with disabled := [] }

/-- The settings list the id of the rule among the disabled ones, in whatever ASCII case. -/
def Settings.SwitchesOff (settings : Settings) (rule : Rule) : Prop :=
  ∃ id ∈ settings.disabled, Text.lower id = Text.lower rule.info.id

instance (settings : Settings) (rule : Rule) : Decidable (settings.SwitchesOff rule) :=
  inferInstanceAs (Decidable (∃ id ∈ settings.disabled, Text.lower id = Text.lower rule.info.id))

/-- The rule, except that it breaks down whatever it is given. -/
def Rule.broken (rule : Rule) : Rule :=
  { rule with evaluate := fun _ => none }

/-- The registry in which the rules that `fails` selects break down. -/
def breakDown (fails : Rule → Bool) (rules : List Rule) : List Rule :=
  rules.map fun rule => if fails rule then rule.broken else rule

/-- The rule answers in the context, and its findings carry its id. -/
def Rule.Answers (rule : Rule) (ctx : Context) : Prop :=
  ∃ findings, rule.evaluate ctx = some findings ∧ ∀ f ∈ findings, f.ruleId = rule.info.id

/-- The ids of the rules that are switched off or selected to fail. -/
def silencedIds (settings : Settings) (fails : Rule → Bool) (rules : List Rule) : List String :=
  (rules.filter fun rule => settings.SwitchesOff rule ∨ fails rule).map (·.info.id)

theorem Settings.isDisabled_eq (settings : Settings) (rule : Rule) :
    settings.isDisabled rule.info.id = decide (settings.SwitchesOff rule) := by
  rw [Bool.eq_iff_iff, decide_eq_true_iff]
  simp [Settings.isDisabled, Settings.SwitchesOff, Text.same]

theorem breakDown_info (fails : Rule → Bool) (rule : Rule) :
    (if fails rule then rule.broken else rule).info = rule.info := by
  split <;> rfl

/-- Breaking rules down does not change which are enabled. -/
theorem breakDown_enabled (settings : Settings) (fails : Rule → Bool) (rules : List Rule) :
    settings.enabled (breakDown fails rules) =
      breakDown fails (rules.filter fun rule => ¬ settings.SwitchesOff rule) := by
  rw [Settings.enabled, breakDown, breakDown, List.filter_map]
  congr 2
  funext rule
  rw [Function.comp_apply, breakDown_info, Settings.isDisabled_eq, decide_not]

/-- Rules with different ids are silenced one by one. -/
theorem mem_silencedIds {settings : Settings} {fails : Rule → Bool} {rules : List Rule}
    (hids : (rules.map fun rule => Text.lower rule.info.id).Nodup) {rule : Rule}
    (hrule : rule ∈ rules) :
    rule.info.id ∈ silencedIds settings fails rules ↔
      settings.SwitchesOff rule ∨ fails rule = true := by
  rw [silencedIds, List.mem_map]
  constructor
  · rintro ⟨other, hother, hid⟩
    obtain ⟨hmem, hsilenced⟩ := List.mem_filter.mp hother
    have heq : other = rule := List.inj_on_of_nodup_map hids hmem hrule (congrArg Text.lower hid)
    rw [← heq]
    exact of_decide_eq_true hsilenced
  · intro hsilenced
    exact ⟨rule, List.mem_filter.mpr ⟨hrule, decide_eq_true hsilenced⟩, rfl⟩

/-! ## Findings -/

/-- Ranking does not depend on which other findings are there. -/
theorem Finding.rank_filter (keep : Finding → Bool) (findings : List Finding) :
    Finding.rank (findings.filter keep) = (Finding.rank findings).filter keep := by
  simp only [Finding.rank, List.filter_flatMap, List.filter_filter, Bool.and_comm]

/-- The findings of one rule are kept or left out together. -/
theorem filter_ownFindings {findings : List Finding} {id : String} {ids : List String}
    (hown : ∀ f ∈ findings, f.ruleId = id) :
    findings.filter (fun f => f.ruleId ∉ ids) = if id ∈ ids then [] else findings := by
  split
  next hid =>
    refine List.filter_eq_nil_iff.mpr fun f hf => ?_
    simpa [hown f hf] using hid
  next hid =>
    refine List.filter_eq_self.mpr fun f hf => ?_
    simpa [hown f hf] using hid

section Runs

variable {rules : List Rule} {settings : Settings} {catalog : Catalog} {statement : Statement}
  {fails : Rule → Bool}

/-- What the other rules emit does not change, and stays in registration order. -/
theorem emissions_breakDown (hids : (rules.map fun rule => Text.lower rule.info.id).Nodup)
    (hanswers : ∀ rule ∈ rules, rule.Answers ⟨statement, catalog, settings.withAllRules⟩)
    (hsame : ∀ rule ∈ rules, ¬ settings.SwitchesOff rule → fails rule = false →
      rule.evaluate ⟨statement, catalog, settings⟩ =
        rule.evaluate ⟨statement, catalog, settings.withAllRules⟩) :
    emissions (breakDown fails rules) ⟨statement, catalog, settings⟩ =
      (emissions rules ⟨statement, catalog, settings.withAllRules⟩).filter
        fun f => f.ruleId ∉ silencedIds settings fails rules := by
  rw [emissions, emissions, breakDown, List.flatMap_map, List.filter_flatMap]
  refine List.flatMap_congr fun rule hrule => ?_
  obtain ⟨findings, hevaluate, hown⟩ := hanswers rule hrule
  have hdisabled := settings.isDisabled_eq rule
  have hwhole : settings.withAllRules.isDisabled rule.info.id = false := rfl
  simp only [breakDown_info, hdisabled, hwhole, hevaluate, Option.getD_some, decide_eq_true_eq,
    Bool.false_eq_true, if_false, filter_ownFindings hown, mem_silencedIds hids hrule]
  by_cases hoff : settings.SwitchesOff rule
  · rw [if_pos hoff, if_pos (Or.inl hoff)]
  · cases hfails : fails rule with
    | true =>
        rw [if_neg hoff, if_pos (Or.inr rfl)]
        rfl
    | false => simp [hoff, hsame rule hrule hoff hfails, hevaluate]

/-- The override that applies to a finding of an enabled rule does not depend on the other rules. -/
theorem finalSeverity_breakDown {rule : Rule} (hrule : rule ∈ rules)
    (hoff : ¬ settings.SwitchesOff rule) {f : Finding} (hid : f.ruleId = rule.info.id) :
    finalSeverity (breakDown fails rules) settings f =
      finalSeverity rules settings.withAllRules f := by
  have hpart : ∃ rule ∈ breakDown fails rules,
      settings.isDisabled rule.info.id = false ∧ rule.info.id = f.ruleId := by
    refine ⟨_, List.mem_map.mpr ⟨rule, hrule, rfl⟩, ?_⟩
    rw [breakDown_info, Settings.isDisabled_eq]
    exact ⟨decide_eq_false hoff, hid.symm⟩
  have hwhole : ∃ rule ∈ rules,
      settings.withAllRules.isDisabled rule.info.id = false ∧ rule.info.id = f.ruleId :=
    ⟨rule, hrule, rfl, hid.symm⟩
  rw [finalSeverity, finalSeverity, if_pos hpart, if_pos hwhole]
  rfl

/-- A finding of the whole registry that is not silenced comes from a rule that is not switched off.
-/
theorem exists_rule_of_mem_emissions
    (hanswers : ∀ rule ∈ rules, rule.Answers ⟨statement, catalog, settings.withAllRules⟩)
    {f : Finding} (hf : f ∈ emissions rules ⟨statement, catalog, settings.withAllRules⟩)
    (hkept : f.ruleId ∉ silencedIds settings fails rules) :
    ∃ rule ∈ rules, ¬ settings.SwitchesOff rule ∧ f.ruleId = rule.info.id := by
  obtain ⟨rule, hrule, hf⟩ := List.mem_flatMap.mp hf
  obtain ⟨findings, hevaluate, hown⟩ := hanswers rule hrule
  have hwhole : settings.withAllRules.isDisabled rule.info.id = false := rfl
  simp only [hwhole, hevaluate, Option.getD_some, Bool.false_eq_true, if_false] at hf
  refine ⟨rule, hrule, fun hoff => hkept ?_, hown f hf⟩
  rw [hown f hf, silencedIds]
  exact List.mem_map.mpr ⟨rule, List.mem_filter.mpr ⟨hrule, decide_eq_true (Or.inl hoff)⟩, rfl⟩

/-- The rules that are reported as failed are the enabled ones that break down. -/
theorem review_breakDown_failedRules
    (hanswers : ∀ rule ∈ rules, rule.Answers ⟨statement, catalog, settings.withAllRules⟩)
    (hsame : ∀ rule ∈ rules, ¬ settings.SwitchesOff rule → fails rule = false →
      rule.evaluate ⟨statement, catalog, settings⟩ =
        rule.evaluate ⟨statement, catalog, settings.withAllRules⟩) :
    (review (breakDown fails rules) settings catalog statement).failedRules =
      (rules.filter fun rule => ¬ settings.SwitchesOff rule ∧ fails rule).map (·.info.id) := by
  simp only [review, breakDown_enabled]
  rw [breakDown, List.filter_map, List.map_map, List.filter_filter]
  have hinfo :
      (fun rule : Rule => rule.info.id) ∘ (fun rule => if fails rule then rule.broken else rule) =
        fun rule => rule.info.id := by
    funext rule
    rw [Function.comp_apply, breakDown_info]
  rw [hinfo]
  refine congrArg (List.map _) (List.filter_congr fun rule hrule => ?_)
  by_cases hoff : settings.SwitchesOff rule
  · simp [hoff]
  · cases hfails : fails rule with
    | true => simp [hoff, hfails, Rule.broken]
    | false =>
        obtain ⟨findings, hevaluate, -⟩ := hanswers rule hrule
        simp [hoff, hfails, (hsame rule hrule hoff hfails).trans hevaluate]

end Runs

/-- With rules of different ids whose findings carry their ids, the report lists the findings of the
run in which nothing is switched off and nothing fails, less those of the rules that are switched
off or fail and in the same order. It names the failing rules among the enabled ones in registration
order and counts the enabled ones. Only a rule that is neither switched off nor failing has to
answer as if the list of disabled ids were empty. -/
theorem review_removes_silenced_findings (rules : List Rule) (settings : Settings)
    (catalog : Catalog) (statement : Statement) (fails : Rule → Bool)
    (hids : (rules.map fun rule => Text.lower rule.info.id).Nodup)
    (hanswers : ∀ rule ∈ rules, rule.Answers ⟨statement, catalog, settings.withAllRules⟩)
    (hsame : ∀ rule ∈ rules, ¬ settings.SwitchesOff rule → fails rule = false →
      rule.evaluate ⟨statement, catalog, settings⟩ =
        rule.evaluate ⟨statement, catalog, settings.withAllRules⟩) :
    (review (breakDown fails rules) settings catalog statement).findings =
      (review rules settings.withAllRules catalog statement).findings.filter
        (fun f => f.ruleId ∉ silencedIds settings fails rules) ∧
    (review (breakDown fails rules) settings catalog statement).failedRules =
      (rules.filter fun rule => ¬ settings.SwitchesOff rule ∧ fails rule).map (·.info.id) ∧
    (review (breakDown fails rules) settings catalog statement).rulesRun =
      (rules.filter fun rule => ¬ settings.SwitchesOff rule).length := by
  refine ⟨?_, review_breakDown_failedRules hanswers hsame, ?_⟩
  · rw [review_findings_eq, review_findings_eq, emissions_breakDown hids hanswers hsame,
      ← Finding.rank_filter, List.filter_map]
    refine congrArg Finding.rank (List.map_congr_left fun f hf => ?_)
    obtain ⟨hemitted, hkept⟩ := List.mem_filter.mp hf
    obtain ⟨rule, hrule, hoff, hid⟩ :=
      exists_rule_of_mem_emissions hanswers hemitted (of_decide_eq_true hkept)
    rw [finalSeverity_breakDown hrule hoff hid]
  · simp only [review, breakDown_enabled]
    rw [breakDown, List.length_map]

/-! ## The built-in rules -/

/-- No built-in rule breaks down on any statement. -/
theorem builtin_answers (ctx : Context) : ∀ rule ∈ Rules.builtin, rule.Answers ctx := by
  intro rule hrule
  obtain ⟨info, details, rfl⟩ := builtin_ofDetails rule hrule
  refine ⟨_, rfl, fun f hf => ?_⟩
  obtain ⟨detail, -, rfl⟩ := List.mem_map.mp hf
  rfl

/-- No two built-in rules have ids that differ in case only. -/
theorem builtin_ids_nodup : (Rules.builtin.map fun rule => Text.lower rule.info.id).Nodup := by
  decide +kernel

/-- `SELECT * FROM t LIMIT 10 OFFSET 5000`. -/
def deepPage : Statement :=
  .query ⟨[], .select ⟨false, [.all], [⟨.table ⟨["t"]⟩ none, []⟩], none, [], none⟩, [],
    some (.literal (.number "10")), some (.literal (.number "5000"))⟩

/-- Settings that switch off two rules, one of them in other letters. -/
def withoutOffsets : Settings :=
  { disabled := ["multi-join", "Deep-OFFSET"], severity := [("select-star", "blocker")] }

/-- The rules on paging. -/
def isPagingRule (rule : Rule) : Bool :=
  rule.info.id ∈ ["limit-without-order", "deep-offset"]

/-- On a page far into a table, with the rules on paging failing and one of them switched off, only
the other one is named as failed. -/
theorem review_removes_silenced_findings_builtin :
    (Rules.builtin.map fun rule => Text.lower rule.info.id).Nodup ∧
    (∀ rule ∈ Rules.builtin, rule.Answers ⟨deepPage, .empty, withoutOffsets.withAllRules⟩) ∧
    (∀ rule ∈ Rules.builtin, ¬ withoutOffsets.SwitchesOff rule → isPagingRule rule = false →
      rule.evaluate ⟨deepPage, .empty, withoutOffsets⟩ =
        rule.evaluate ⟨deepPage, .empty, withoutOffsets.withAllRules⟩) ∧
    (review (breakDown isPagingRule Rules.builtin) withoutOffsets .empty deepPage).findings =
      (review Rules.builtin withoutOffsets.withAllRules .empty deepPage).findings.filter
        (fun f => f.ruleId ∉ ["multi-join", "limit-without-order", "deep-offset"]) ∧
    (review (breakDown isPagingRule Rules.builtin) withoutOffsets .empty deepPage).failedRules =
      ["limit-without-order"] ∧
    (review (breakDown isPagingRule Rules.builtin) withoutOffsets .empty deepPage).rulesRun =
      15 := by
  have hanswers := builtin_answers ⟨deepPage, .empty, withoutOffsets.withAllRules⟩
  have hcongr : ∀ rule ∈ Rules.builtin, rule.evaluate ⟨deepPage, .empty, withoutOffsets⟩ =
      rule.evaluate ⟨deepPage, .empty, withoutOffsets.withAllRules⟩ := builtin_congr rfl rfl rfl
  have hsilenced : silencedIds withoutOffsets isPagingRule Rules.builtin =
      ["multi-join", "limit-without-order", "deep-offset"] := by decide +kernel
  obtain ⟨hfindings, hfailed, hrun⟩ := review_removes_silenced_findings Rules.builtin withoutOffsets
    .empty deepPage isPagingRule builtin_ids_nodup hanswers fun rule hrule _ _ => hcongr rule hrule
  rw [hsilenced] at hfindings
  refine ⟨builtin_ids_nodup, hanswers, fun rule hrule _ _ => hcongr rule hrule, hfindings,
    hfailed.trans ?_, hrun.trans ?_⟩
  · decide +kernel
  · decide +kernel

/-! ## Rules that the result leaves out -/

/-- A rule on correctness with an id of its own. -/
def ruleNamed (id : String) (details : Context → List String) : Rule :=
  .ofDetails ⟨id, id, .minor, .correctness⟩ details

/-- The second rule looks at the list of disabled ids, and has a finding only if the list is empty.
-/
def watchfulRules : List Rule :=
  [ruleNamed "plain" fun _ => ["a finding"],
   ruleNamed "watchful" fun ctx => if ctx.settings.disabled = [] then ["a finding"] else []]

/-- One rule, with an id that begins with a letter outside ASCII. -/
def accentedRules : List Rule :=
  [ruleNamed "É-rule" fun _ => ["a finding"]]

/-- Switching off the plain rule of `watchfulRules` takes the finding of the other rule away too,
though ids are different and all findings carry them. The rule of `accentedRules` keeps its finding,
though its id is listed as disabled with the accented letter in the other case. -/
theorem review_hears_disabled_list :
    (watchfulRules.map fun rule => Text.lower rule.info.id).Nodup ∧
    (∀ settings, ∀ rule ∈ watchfulRules ++ accentedRules,
      rule.Answers ⟨deepPage, .empty, settings⟩) ∧
    (review watchfulRules { disabled := ["plain"] } .empty deepPage).findings = [] ∧
    (review watchfulRules {} .empty deepPage).findings.filter
      (fun f => f.ruleId ∉ silencedIds { disabled := ["plain"] } (fun _ => false) watchfulRules) =
        [⟨"watchful", .minor, "a finding"⟩] ∧
    (review accentedRules { disabled := ["é-rule"] } .empty deepPage).findings =
      [⟨"É-rule", .minor, "a finding"⟩] ∧
    (review accentedRules { disabled := ["é-rule"] } .empty deepPage).rulesRun = 1 := by
  refine ⟨by decide, fun settings rule hrule => ?_, by decide, by decide, by decide, by decide⟩
  simp only [watchfulRules, accentedRules, List.cons_append, List.nil_append, List.mem_cons,
    List.not_mem_nil, or_false] at hrule
  obtain rfl | rfl | rfl := hrule <;>
    exact ⟨_, rfl, fun f hf => by obtain ⟨detail, -, rfl⟩ := List.mem_map.mp hf; rfl⟩

end SqlAudit
