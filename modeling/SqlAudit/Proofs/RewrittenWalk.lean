import Mathlib.Data.List.Perm.Basic
import SqlAudit.Proofs.RewrittenPlaces
import SqlAudit.Proofs.WalkOrder

/-! # The walk over a rewritten statement

A rewriting that exchanges the operands of an expression changes the order in which the walk meets
the query levels and blocks nested in them, and nothing else. If at most the order of the nodes
inside each single expression changes, the walk over a rewritten statement finds the rewritten
nodes, blocks and predicates of the statement in some order.
-/

namespace SqlAudit

/-- The rewriting of expressions keeps the nodes inside an expression, if not their order. -/
def Rewriting.PermutesNodes (r : Rewriting) : Prop :=
  ∀ e, (r.expr e).nodes.Perm e.nodes

variable {r : Rewriting}

theorem Part.ownNodes_rewriteParts (p : Part) :
    (p.rewriteParts r).ownNodes = p.ownNodes.map (Node.rewrite r) := by
  cases p <;> rfl

/-- Behind a clause the walk meets the rewritten nodes, up to their order. -/
theorem clauseNodes_rewrite {clause : Slot × Part}
    (hnodes : (clause.2.rewrite r).nodes.Perm (clause.2.nodes.map (Node.rewrite r))) :
    (clauseNodes (clause.1, clause.2.rewrite r)).Perm
      ((clauseNodes clause).map (Node.rewrite r)) := by
  rw [clauseNodes, clauseNodes]
  split
  next => exact List.Perm.nil
  next => exact hnodes

section Walk

variable (hr : r.PermutesNodes)

include hr

/-- The walk over a rewritten part finds the rewritten nodes of the part. -/
theorem Part.nodes_rewrite (p : Part) :
    (p.rewrite r).nodes.Perm (p.nodes.map (Node.rewrite r)) := by
  induction p using Part.induction with
  | step p ih =>
      -- Behind each clause the nodes are those of a smaller part; the order of the clauses does not
      -- change here.
      have hparts : (p.rewriteParts r).nodes.Perm (p.nodes.map (Node.rewrite r)) := by
        rw [nodes_eq_clauses, nodes_eq_clauses p, p.ownNodes_rewriteParts, p.clauses_rewriteParts,
          rewriteClauses, List.flatMap_map, List.map_append, List.map_flatMap]
        exact (List.Perm.flatMap_left _ fun clause hclause =>
          clauseNodes_rewrite (ih clause.1 clause.2 hclause)).append_left _
      cases p with
      | expr e =>
          -- What becomes of the expression itself can only reorder what its clauses have given.
          rw [Part.rewrite, Expr.rewrite_eq]
          exact (hr _).trans hparts
      | _ => exact hparts

theorem Statement.nodes_rewrite (s : Statement) :
    (s.rewrite r).nodes.Perm (s.nodes.map (Node.rewrite r)) :=
  Part.nodes_rewrite hr (.statement s)

/-- The rewritten statement has the rewritten blocks, up to their order. -/
theorem Statement.selects_rewrite (s : Statement) :
    (s.rewrite r).selects.Perm (s.selects.map (Select.rewrite r)) := by
  rw [Statement.selects, Statement.selects, List.map_filterMap]
  refine ((s.nodes_rewrite hr).filterMap _).trans (List.Perm.of_eq ?_)
  rw [List.filterMap_map]
  congr 1
  funext node
  cases node <;> rfl

theorem Statement.queries_rewrite (s : Statement) :
    (s.rewrite r).queries.Perm (s.queries.map (Query.rewrite r)) := by
  rw [Statement.queries, Statement.queries, List.map_filterMap]
  refine ((s.nodes_rewrite hr).filterMap _).trans (List.Perm.of_eq ?_)
  rw [List.filterMap_map]
  congr 1
  funext node
  cases node <;> rfl

theorem Statement.predicates_rewrite (s : Statement) :
    (s.rewrite r).predicates.Perm (s.predicates.map (Predicate.rewrite r)) := by
  rw [Statement.predicates, Statement.predicates, List.map_append, s.ownPredicates_rewrite,
    List.map_flatMap]
  refine List.Perm.append_left _
    (((s.selects_rewrite hr).flatMap_right _).trans (List.Perm.of_eq ?_))
  rw [List.flatMap_map]
  simp only [Select.predicates_rewrite]

end Walk

end SqlAudit
