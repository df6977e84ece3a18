import Mathlib.Algebra.GroupWithZero.Nat
import SqlAudit.Proofs.OperandPlaces

/-! # What the walk over an expression meets

Listing the nodes of an expression visits every place in it that no nested query stands above, each
once and in the order of places. Some of the nodes own a query. The queries met in this way are the
outermost ones: no other query of the expression stands above them. They too are met in the order of
places, and a query that a node owns comes before those in the operands of the node.
-/

namespace SqlAudit

/-! ## Counting nodes -/

mutual

/-- The number of nodes of the expression. A nested query is no node, and what stands in it is not
counted. -/
def Expr.nodeCount : Expr → Nat
  | .column _ | .literal _ | .existsQuery _ _ | .scalarQuery _ | .other _ => 1
  | .unary _ operand | .nested operand | .isNull operand _ | .inQuery operand _ _
  | .cast operand _ =>
    1 + operand.nodeCount
  | .binary left _ right | .like left right _ _ => 1 + (left.nodeCount + right.nodeCount)
  | .between operand low high _ => 1 + (operand.nodeCount + (low.nodeCount + high.nodeCount))
  | .inList operand items _ => 1 + (operand.nodeCount + Expr.nodeCountAll items)
  | .call _ args _ _ _ => 1 + Expr.nodeCountAll args
  | .caseWhen operand branches otherwise =>
    1 + (Expr.nodeCountOption operand +
      (CaseBranch.nodeCountAll branches + Expr.nodeCountOption otherwise))

def Expr.nodeCountAll : List Expr → Nat
  | [] => 0
  | e :: rest => e.nodeCount + Expr.nodeCountAll rest

def Expr.nodeCountOption : Option Expr → Nat
  | none => 0
  | some e => e.nodeCount

def CaseBranch.nodeCountAll : List CaseBranch → Nat
  | [] => 0
  | ⟨condition, result⟩ :: rest =>
      condition.nodeCount + (result.nodeCount + CaseBranch.nodeCountAll rest)

end

namespace Expr

theorem nodeCountAll_eq (es : List Expr) : nodeCountAll es = (es.map nodeCount).sum := by
  induction es with
  | nil => rfl
  | cons e rest ih => rw [nodeCountAll, ih, List.map_cons, List.sum_cons]

theorem nodeCountOption_eq (e : Option Expr) :
    nodeCountOption e = (e.toList.map nodeCount).sum := by
  cases e <;> simp [nodeCountOption]

theorem nodeCountBranches_eq (branches : List CaseBranch) :
    CaseBranch.nodeCountAll branches = ((branchOperands branches).map nodeCount).sum := by
  induction branches with
  | nil => rfl
  | cons branch rest ih =>
      obtain ⟨condition, result⟩ := branch
      simp [CaseBranch.nodeCountAll, ih, branchOperands]

/-- A node counts one, and so does everything below it. -/
theorem nodeCount_eq (e : Expr) : e.nodeCount = 1 + (e.operands.map nodeCount).sum := by
  cases e <;>
    simp [nodeCount, operands, nodeCountAll_eq, nodeCountOption_eq, nodeCountBranches_eq]

/-- The walk visits as many nodes as there are. -/
theorem length_preorder (e : Expr) : e.preorder.length = e.nodeCount := by
  induction e using operandInduction with
  | step e ih =>
      have hoperands : e.operands.map (fun operand => operand.preorder.length) =
          e.operands.map nodeCount :=
        List.map_congr_left ih
      rw [preorder_eq, nodeCount_eq, List.length_cons, List.length_flatMap, hoperands, Nat.add_comm]

/-! ## Queries met on the way -/

/-- The queries that the nodes of an expression own, in the order of the nodes. -/
def outerQueries (e : Expr) : List Query :=
  e.preorder.flatMap ownQueries

/-- The queries of the node itself come before those of its operands. -/
theorem outerQueries_eq (e : Expr) :
    e.outerQueries = e.ownQueries ++ e.operands.flatMap outerQueries := by
  rw [outerQueries, preorder_eq, List.flatMap_cons, List.flatMap_assoc]
  rfl

/-- The only queries directly below a node are its own. -/
theorem query_clause_iff {e : Expr} {slot : Slot} {q : Query} :
    (slot, .query q) ∈ e.clauses ↔ slot = .ownQuery ∧ q ∈ e.ownQueries := by
  cases e
  all_goals grind [clauses, ownQueries, mem_exprClauses, mem_eachClause, mem_optionClause]

end Expr

/-- What a clause of an expression contributes if operands and queries contribute something. -/
def clauseValues {α : Type} (f : Expr → List α) (g : Query → List α) : Slot × Part → List α
  | (_, .expr e) => f e
  | (_, .query q) => g q
  | _ => []

namespace Expr

/-- The query that an expression owns contributes first. -/
theorem flatMap_clauseValues {α : Type} (f : Expr → List α) (g : Query → List α) (e : Expr) :
    e.clauses.flatMap (clauseValues f g) = e.ownQueries.flatMap g ++ e.operands.flatMap f := by
  have hnone (hown : e.ownQueries = []) :
      e.clauses.flatMap (clauseValues f g) = e.ownQueries.flatMap g ++ e.operands.flatMap f := by
    rw [hown, ← flatMap_operandValues]
    refine List.flatMap_congr fun ⟨slot, c⟩ hclause => ?_
    rcases clause_cases hclause with ⟨-, operand, rfl⟩ | ⟨-, q, rfl⟩
    · rfl
    · have hq := (query_clause_iff.mp hclause).2
      simp [hown] at hq
  cases e with
  | inQuery operand query negated => simp [clauses, clauseValues, ownQueries, operands]
  | existsQuery query negated | scalarQuery query =>
      simp [clauses, clauseValues, ownQueries, operands]
  | _ => exact hnone rfl

/-- The walk over a statement finds in an expression what it finds in the queries met there. -/
theorem nodes_eq_flatMap_outerQueries (e : Expr) :
    e.nodes = e.outerQueries.flatMap Query.nodes := by
  induction e using operandInduction with
  | step e ih =>
      have hclauses : e.clauses.flatMap clauseNodes =
          e.clauses.flatMap (clauseValues nodes Query.nodes) := by
        refine List.flatMap_congr fun ⟨slot, c⟩ hclause => ?_
        rw [clauseNodes_of_not_isPaging (e.noPaging_clauses _ hclause)]
        rcases clause_cases hclause with ⟨-, operand, rfl⟩ | ⟨-, q, rfl⟩ <;> rfl
      rw [nodes_eq, hclauses, flatMap_clauseValues, outerQueries_eq, List.flatMap_append,
        List.flatMap_assoc, List.flatMap_congr ih]

end Expr

/-! ## Places outside nested queries -/

/-- No query stands above the place: one that the way meets stands at the place itself. -/
def OutsideQueries (p : Part) (place : Place) : Prop :=
  ∀ above q, Reaches p above (.query q) → above <+: place → above = place

theorem outsideQueries_nil (p : Part) : OutsideQueries p [] := by
  intro above q _ habove
  exact List.prefix_nil.mp habove

/-- From a query, only the query itself lies outside nested queries. -/
theorem OutsideQueries.eq_nil {q : Query} {place : Place}
    (houtside : OutsideQueries (.query q) place) :
    place = [] :=
  (houtside [] q (.here _) List.nil_prefix).symm

theorem Expr.outsideQueries_cons_iff {e : Expr} {slot : Slot} {c : Part} {rest : Place}
    (hclause : (slot, c) ∈ e.clauses) :
    OutsideQueries (.expr e) (slot :: rest) ↔ OutsideQueries c rest := by
  constructor
  · intro houtside above q hreach habove
    have heq :=
      houtside (slot :: above) q (.inside hclause hreach) (List.cons_prefix_cons.mpr ⟨rfl, habove⟩)
    exact List.tail_eq_of_cons_eq heq
  · intro houtside above q hreach habove
    cases hreach with
    | inside hother hrest =>
        obtain ⟨rfl, hbelow⟩ := List.cons_prefix_cons.mp habove
        cases clause_unique hclause hother
        rw [houtside _ q hrest hbelow]

/-- The nodes of an expression are the expressions in it that no query stands above. -/
theorem Expr.hasNodeAt_iff_outsideQueries {e node : Expr} {place : Place} :
    e.HasNodeAt place node ↔ Reaches (.expr e) place (.expr node) ∧
      OutsideQueries (.expr e) place := by
  induction place generalizing e with
  | nil =>
      rw [HasNodeAt, and_iff_left Place.throughOperands_nil, and_iff_left (outsideQueries_nil _)]
  | cons slot rest ih =>
      rw [hasNodeAt_cons_iff]
      constructor
      · intro ⟨operand, hclause, hnode⟩
        obtain ⟨hreach, houtside⟩ := ih.mp hnode
        exact ⟨.inside hclause hreach, (outsideQueries_cons_iff hclause).mpr houtside⟩
      · intro ⟨hreach, houtside⟩
        cases hreach with
        | inside hclause hrest =>
            have hinside := (outsideQueries_cons_iff hclause).mp houtside
            rcases clause_cases hclause with ⟨-, operand, rfl⟩ | ⟨-, q, rfl⟩
            · exact ⟨operand, hclause, ih.mpr ⟨hrest, hinside⟩⟩
            · -- Nothing but the query itself stands there.
              cases hinside.eq_nil
              cases hrest

/-- The way leads to a query of the part, and no other query of the part stands above it. -/
def HasOuterQueryAt (p : Part) (place : Place) (q : Query) : Prop :=
  Reaches p place (.query q) ∧ OutsideQueries p place

theorem hasOuterQueryAt_query_iff {q inner : Query} {place : Place} :
    HasOuterQueryAt (.query q) place inner ↔ place = [] ∧ inner = q := by
  constructor
  · intro ⟨hreach, houtside⟩
    cases houtside.eq_nil
    cases hreach
    exact ⟨rfl, rfl⟩
  · rintro ⟨rfl, rfl⟩
    exact ⟨.here _, outsideQueries_nil _⟩

/-- A query below an expression is behind one of its clauses. -/
theorem Expr.hasOuterQueryAt_iff {e : Expr} {place : Place} {q : Query} :
    HasOuterQueryAt (.expr e) place q ↔
      Behind (fun clause rest q => HasOuterQueryAt clause.2 rest q) e.clauses place q := by
  constructor
  · intro ⟨hreach, houtside⟩
    cases hreach with
    | inside hclause hrest =>
        exact ⟨_, _, _, hclause, rfl, hrest, (outsideQueries_cons_iff hclause).mp houtside⟩
  · rintro ⟨slot, c, rest, hclause, rfl, hreach, houtside⟩
    exact ⟨.inside hclause hreach, (outsideQueries_cons_iff hclause).mpr houtside⟩

/-- The outermost queries are listed with their places, in the order of the walk. -/
theorem Expr.exists_enumerates_outerQueries (e : Expr) :
    ∃ entries, Enumerates (fun a b => a.key < b.key) entries e.outerQueries
      (HasOuterQueryAt (.expr e)) := by
  induction e using operandInduction with
  | step e ih =>
      have hclauses : ∀ clause ∈ e.clauses, ∃ entries, Enumerates (fun a b => a.key < b.key) entries
          (clauseValues outerQueries (fun q => [q]) clause) (HasOuterQueryAt clause.2) := by
        intro ⟨slot, c⟩ hclause
        rcases clause_cases hclause with ⟨-, operand, rfl⟩ | ⟨-, q, rfl⟩
        · exact ih operand (mem_operands_of_clause hclause)
        · have hone : [q].length ≤ 1 := Nat.le_refl 1
          refine ⟨_, (Enumerates.atPlace [] hone).congr rfl fun place inner => ?_⟩
          rw [hasOuterQueryAt_query_iff, List.mem_singleton]
      obtain ⟨entries, hentries⟩ := Enumerates.exists_clauses hclauses e.clauses_inOrder
      refine ⟨entries, hentries.congr ?_ fun place q => hasOuterQueryAt_iff.symm⟩
      rw [flatMap_clauseValues, outerQueries_eq, List.flatMap_singleton']

/-- The walk over an expression visits each place that no query stands above, once and in the order
of places, and makes as many visits as the expression has nodes. The queries that it meets are those
that no other query stands above, each once and in the order of places, and the walk over a
statement goes on into exactly these. -/
theorem Expr.walk_visits_places_and_outer_queries (e : Expr) :
    ∃ (visits : List (Place × Expr)) (queries : List (Place × Query)),
      visits.map Prod.snd = e.preorder ∧
      (∀ place node, (place, node) ∈ visits ↔
        Reaches (.expr e) place (.expr node) ∧ OutsideQueries (.expr e) place) ∧
      (visits.map Prod.fst).Nodup ∧
      (visits.Pairwise fun a b => a.1.Before b.1) ∧
      e.preorder.length = e.nodeCount ∧
      queries.map Prod.snd = e.preorder.flatMap ownQueries ∧
      (∀ place q, (place, q) ∈ queries ↔
        Reaches (.expr e) place (.query q) ∧ OutsideQueries (.expr e) place) ∧
      (queries.map Prod.fst).Nodup ∧
      (queries.Pairwise fun a b => a.1.Before b.1) ∧
      e.nodes = (queries.map Prod.snd).flatMap Query.nodes := by
  obtain ⟨visits, hvisits⟩ := e.exists_enumerates_preorder
  obtain ⟨queries, hqueries⟩ := e.exists_enumerates_outerQueries
  have hirrefl (slot : Slot) : ¬ slot.key < slot.key := List.lt_irrefl slot.key
  refine ⟨visits, queries, hvisits.listed_eq, ?_, hvisits.nodup hirrefl, hvisits.inOrder,
    e.length_preorder, hqueries.listed_eq, hqueries.mem_iff, hqueries.nodup hirrefl,
    hqueries.inOrder, ?_⟩
  · intro place node
    rw [hvisits.mem_iff, hasNodeAt_iff_outsideQueries]
  · rw [hqueries.listed_eq, nodes_eq_flatMap_outerQueries]

end SqlAudit
