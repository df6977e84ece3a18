import SqlAudit.Proofs.CosmeticRewriting
import SqlAudit.Proofs.RewrittenPlaces

/-! # Redundant parentheses

Removing the parentheses around expressions, at every depth and in every clause, leaves no
parenthesised expression behind and does not change which rules report and with what severities.
Texts quoted in the details of findings do change, as they show the expressions as they are written.
-/

namespace SqlAudit

/-- The expression inside one pair of parentheses; an expression without them stays. -/
def Expr.dropOuter : Expr → Expr
  | .nested inner => inner
  | e => e

/-- Removes all parentheses around expressions. -/
def Rewriting.dropParens : Rewriting :=
  ⟨id, Expr.dropOuter⟩

theorem Expr.dropOuter_of_not_isNested {e : Expr} (hplain : e.isNested = false) :
    e.dropOuter = e := by
  cases e with
  | nested inner => cases hplain
  | _ => rfl

/-- Dropping all parentheses is a cosmetic change. -/
theorem Rewriting.dropParens_cosmetic : Rewriting.dropParens.Cosmetic where
  plain _ hplain := Or.inl (Expr.dropOuter_of_not_isNested hplain)
  nested _ := Or.inr rfl
  letters _ := rfl

/-- Every built-in rule finds as much in a statement without parentheses. -/
theorem Rewriting.dropParens_keepsCount :
    ∀ rule ∈ Rules.builtin, Rewriting.dropParens.KeepsCount rule :=
  Rewriting.dropParens_cosmetic.keepsCount

theorem Expr.isNested_dropParens (e : Expr) : (e.rewrite .dropParens).isNested = false := by
  induction e using Expr.parenInduction with
  | nested inner ih => exact ih
  | plain e hplain => exact Expr.isNested_rewrite Rewriting.dropParens_cosmetic hplain

/-! ## Statements without parentheses -/

/-- Below the root everything is rewritten too. -/
theorem Expr.rewritten_clauses_dropParens (e : Expr) :
    Rewritten .dropParens (e.rewrite .dropParens).clauses := by
  induction e using Expr.parenInduction with
  | nested inner ih => exact ih
  | plain e hplain =>
      have hparts : e.rewrite .dropParens = e.rewriteParts .dropParens :=
        (e.rewrite_eq _).trans
          (Expr.dropOuter_of_not_isNested (e.isNested_rewriteParts.trans hplain))
      rw [hparts]
      exact Part.rewritten_clauses_rewriteParts (.expr e)

/-- No place of a statement without parentheses holds a parenthesised expression. -/
theorem Statement.not_reaches_nested_dropParens (s : Statement) (place : Place) (inner : Expr) :
    ¬ Reaches (.statement (s.rewrite .dropParens)) place (.expr (.nested inner)) := by
  intro hreach
  obtain ⟨d, hd⟩ := Reaches.rewritten Expr.rewritten_clauses_dropParens (p := .statement s) hreach
  cases d with
  | expr e =>
      have hnested := e.isNested_dropParens
      rw [← Part.expr.inj hd] at hnested
      cases hnested
  | _ => cases hd

/-- Removing the parentheses around all expressions of a statement leaves no parenthesised
expression at any place, and a review with the built-in rules reports the same rules and severities
in the same order. -/
theorem review_ignores_parentheses (settings : Settings) (catalog : Catalog) (s : Statement) :
    (∀ (place : Place) (inner : Expr),
      ¬ Reaches (.statement (s.rewrite .dropParens)) place (.expr (.nested inner))) ∧
    (review Rules.builtin settings catalog (s.rewrite .dropParens)).findings.map
        (fun f => (f.ruleId, f.severity)) =
      (review Rules.builtin settings catalog s).findings.map (fun f => (f.ruleId, f.severity)) := by
  refine ⟨s.not_reaches_nested_dropParens, ?_⟩
  exact review_tags_eq_of_counts fun rule hrule =>
    Rewriting.dropParens_keepsCount rule hrule s catalog settings

end SqlAudit
