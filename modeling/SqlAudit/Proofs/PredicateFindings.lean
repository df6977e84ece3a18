import SqlAudit.Proofs.CosmeticRewriting
import SqlAudit.Proofs.PredicateSites

/-! # Findings in predicates

The rules on predicates look at the nodes of the listed predicates one by one. A node stands at one
place of the statement and belongs to one predicate, so what a rule finds at a node it finds once.
For comparisons with `NULL` this gives the findings of a statement place by place. The `ON`
predicates of an `UPDATE` or `DELETE` are not listed, and comparisons in them are not found.
-/

namespace SqlAudit

/-! ## The nodes of the predicates of a statement -/

/-- What is collected predicate by predicate and node by node is collected along the list of nodes.
-/
theorem ListsNodes.flatMap_predicates {s : Statement} {nodes : List (Place × Predicate × Expr)}
    (hnodes : ListsNodes s nodes) {β : Type} (f : Predicate → Expr → List β) :
    (s.predicates.flatMap fun p => p.expr.preorder.flatMap (f p)) =
      nodes.flatMap fun node => f node.2.1 node.2.2 := by
  calc (s.predicates.flatMap fun p => p.expr.preorder.flatMap (f p))
      = (s.predicates.flatMap fun p => p.expr.preorder.map (p, ·)).flatMap fun node =>
        f node.1 node.2 := by
        simp only [List.flatMap_assoc, List.flatMap_map]
    _ = nodes.flatMap fun node => f node.2.1 node.2.2 := by
        rw [← hnodes.nodes_eq, List.flatMap_map]

/-- No node of a predicate stands in an `ON` of the statement's own joins: these are the joins of an
`UPDATE` or `DELETE`. -/
theorem PredicateNodeAt.not_in_own_join {s : Statement} {place : Place} {p : Predicate} {e : Expr}
    (hnode : PredicateNodeAt s place p e) {way rest : Place} (hway : way.IsOnWay)
    (hrest : rest.ThroughOperands) : place ≠ way ++ rest := by
  rintro rfl
  obtain ⟨owner, way', rest', heq, hp, -, hrest'⟩ := hnode
  -- Below the statement's own `ON` there is no body, so the owner of the predicate is the
  -- statement.
  have hon : Site.IsWay .joinOn way := hway
  obtain ⟨hblock, hoperands⟩ := hon.rdropWhile_eq hrest []
  obtain ⟨hblock', hoperands'⟩ := hp.rdropWhile_eq hrest'
  rw [← heq] at hblock' hoperands'
  obtain rfl : owner = [] := hblock'.symm.trans hblock
  obtain rfl : way' = way := hoperands'.symm.trans hoperands
  have hsite : p.site ≠ .filter := by
    intro hfilter
    have hat := hp.standsAt.isWay
    rw [hfilter] at hat
    cases hat
    obtain ⟨sides, i, j, hsides, -⟩ := hway
    simp [List.singleton_eq_append_iff] at hsides
  obtain ⟨block, hblock⟩ := hp.standsAt.owner hsite
  have hreach := hp.owner
  rw [hblock] at hreach
  cases hreach

/-! ## Comparisons with NULL -/

/-- The expression is `a = b` or `a <> b`, and `a` or `b` is `NULL`, possibly in parentheses. -/
def Expr.ComparesWithNull : Expr → Prop
  | .binary left op right =>
    (op = .eq ∨ op = .notEq) ∧ (left.unnest = .literal .null ∨ right.unnest = .literal .null)
  | _ => False

/-- The test to write in place of a comparison with `NULL`. -/
def Expr.testForNull : Expr → String
  | .binary _ .notEq _ => "IS NOT NULL"
  | _ => "IS NULL"

/-- An expression counts as `NULL` if it is, below its parentheses. -/
theorem Expr.isNullLiteral_iff (e : Expr) : e.isNullLiteral = true ↔ e.unnest = .literal .null := by
  rw [isNullLiteral, beq_iff_eq, asLiteral_eq_some_iff]

/-- A node is reported exactly if it compares with `NULL`, with the test to use instead. -/
theorem Rules.nullComparisonOf_eq_some_iff {e : Expr} {remark : String} :
    nullComparisonOf e = some remark ↔ e.ComparesWithNull ∧
      remark = nullRemark e e.testForNull := by
  cases e with
  | binary left op right =>
      cases op <;> simp [nullComparisonOf, nullTest, Expr.ComparesWithNull, Expr.isNullLiteral_iff,
        Expr.testForNull, @eq_comm _ remark]
  | _ => simp [nullComparisonOf, Expr.ComparesWithNull]

/-- The remarks of the rule, read off a list of all nodes of predicates. -/
theorem ListsNodes.filterMap_nullComparisonOf {s : Statement}
    {nodes : List (Place × Predicate × Expr)} (hnodes : ListsNodes s nodes) :
    (s.predicates.flatMap fun p => p.expr.preorder.filterMap Rules.nullComparisonOf) =
      (nodes.filter fun node => (Rules.nullComparisonOf node.2.2).isSome).map fun node =>
        Rules.nullRemark node.2.2 node.2.2.testForNull := by
  have hdrop (node : Place × Predicate × Expr) : (if (Rules.nullComparisonOf node.2.2).isSome then
      Rules.nullComparisonOf node.2.2 else none) = Rules.nullComparisonOf node.2.2 := by
    cases Rules.nullComparisonOf node.2.2 <;> rfl
  have hremark : ∀ node ∈ nodes.filter fun node => (Rules.nullComparisonOf node.2.2).isSome,
      Rules.nullComparisonOf node.2.2 = some (Rules.nullRemark node.2.2 node.2.2.testForNull) := by
    intro node hnode
    obtain ⟨remark, hremark⟩ := Option.isSome_iff_exists.mp (List.mem_filter.mp hnode).2
    rw [hremark, (Rules.nullComparisonOf_eq_some_iff.mp hremark).2]
  rw [← List.filterMap_eq_map_iff_forall_eq_some.mpr hremark, List.filterMap_filter]
  simp only [hdrop, List.filterMap_eq_flatMap_toList]
  exact hnodes.flatMap_predicates fun _ e => (Rules.nullComparisonOf e).toList

/-- Comparisons with `NULL` are found where they stand in a listed predicate, each once, and nothing
else is found. What stands in an `ON` of the joins of an `UPDATE` or `DELETE` is not found. -/
theorem nullComparison_finds_in_predicates (ctx : Context) :
    ∃ found : List (Place × Predicate × Expr),
      (found.map Prod.fst).Nodup ∧
      (∀ place p e, (place, p, e) ∈ found ↔
        e.ComparesWithNull ∧ ∃ owner way rest, place = owner ++ way ++ rest ∧
          PredicateAt ctx.statement owner way p ∧ p.expr.HasNodeAt rest e) ∧
      (∀ way on rest e, OnAt (.statement ctx.statement) way on → on.HasNodeAt rest e →
        way ++ rest ∉ found.map Prod.fst) ∧
      Rules.nullComparison.evaluate ctx =
        some (found.map fun entry =>
          ⟨"null-comparison", .blocker, Rules.nullRemark entry.2.2 entry.2.2.testForNull⟩) := by
  obtain ⟨nodes, hnodes⟩ := ctx.statement.exists_listsNodes
  have hmem (place : Place) (p : Predicate) (e : Expr) :
      (place, p, e) ∈ nodes.filter (fun node => (Rules.nullComparisonOf node.2.2).isSome) ↔
        e.ComparesWithNull ∧ PredicateNodeAt ctx.statement place p e := by
    simp [hnodes.mem_iff, Option.isSome_iff_exists, Rules.nullComparisonOf_eq_some_iff, and_comm]
  refine ⟨_, hnodes.nodup.sublist (List.filter_sublist.map _), hmem, ?_, ?_⟩
  · intro way on rest e hon hrest hfound
    obtain ⟨⟨_, p, x⟩, hentry, rfl⟩ := List.mem_map.mp hfound
    exact ((hmem _ p x).mp hentry).2.not_in_own_join hon.2 hrest.2 rfl
  · have hremarks :=
      congrArg (List.map Rules.nullComparisonInfo.finding) hnodes.filterMap_nullComparisonOf
    rw [List.map_map] at hremarks
    exact congrArg some hremarks

/-- `UPDATE t JOIN u ON t.a = NULL SET b = 1 WHERE t.id = 1`. -/
def updateOfJoin : Update :=
  ⟨⟨.table ⟨["t"]⟩ none, [⟨.table ⟨["u"]⟩ none,
      some (.binary (.column ⟨some "t", "a"⟩) .eq (.literal .null))⟩]⟩,
    [⟨"b", .literal (.number "1")⟩],
    some (.binary (.column ⟨some "t", "id"⟩) .eq (.literal (.number "1")))⟩

/-- The comparison with `NULL` in the `ON` of the joins of an `UPDATE` is not found. -/
theorem null_in_joined_update_not_found :
    ∃ way on, OnAt (.statement (.update updateOfJoin)) way on ∧ on.ComparesWithNull ∧
      ∀ catalog settings, Rules.nullComparison.evaluate ⟨.update updateOfJoin, catalog, settings⟩ =
        some [] := by
  refine ⟨[.on 0 0], .binary (.column ⟨some "t", "a"⟩) .eq (.literal .null),
    ⟨?_, [], 0, 0, rfl, by simp⟩, ⟨Or.inl rfl, Or.inr rfl⟩, fun catalog settings => ?_⟩
  · refine Reaches.single_iff.mpr ?_
    simp [Part.clauses, Statement.clauses, mem_fromClauses, updateOfJoin]
  · rfl

end SqlAudit
