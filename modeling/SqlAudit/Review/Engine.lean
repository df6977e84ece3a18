import SqlAudit.Review.Report
import SqlAudit.Review.Rule

/-! # Reviewing a statement

Rules that are switched off are dropped; the others are evaluated in registration order. A rule that
breaks down is recorded and contributes nothing. Severity overrides replace the rules' own
severities before the findings are ranked.
-/

namespace SqlAudit

/-- The rules that are not switched off, in registration order. -/
def Settings.enabled (settings : Settings) (rules : List Rule) : List Rule :=
  rules.filter fun r => !settings.isDisabled r.info.id

/-- The severity that overrides those of an enabled rule, when the settings name a valid one. -/
def Settings.override? (settings : Settings) (rules : List Rule) (ruleId : String) :
    Option Severity :=
  if (settings.enabled rules).any (·.info.id == ruleId) then
    (settings.severity.lookup ruleId).bind Severity.ofWord
  else none

/-- The finding with its severity overridden, if an override applies. -/
def Settings.adjust (settings : Settings) (rules : List Rule) (f : Finding) : Finding :=
  match settings.override? rules f.ruleId with
  | some s => { f with severity := s }
  | none => f

/-- Reviews one statement with a registry of rules. -/
def review (rules : List Rule) (settings : Settings) (catalog : Catalog) (statement : Statement) :
    Report :=
  let ctx : Context := ⟨statement, catalog, settings⟩
  let enabled := settings.enabled rules
  let emitted := enabled.flatMap fun r => (r.evaluate ctx).getD []
  { findings := Finding.rank (emitted.map (settings.adjust rules))
    rulesRun := enabled.length
    failedRules := (enabled.filter fun r => (r.evaluate ctx).isNone).map (·.info.id) }

end SqlAudit
