import SqlAudit.Proofs.Ranking

/-! # Set operations

The walk goes through the branches of a set operation one after the other and through nothing else,
and no rule looks at two blocks or two query levels together. So a set operation is found to be at
fault in what its left branch is at fault and then in what its right branch is.
-/

namespace SqlAudit

/-- The query with that body and nothing else: no `WITH`, no order and no paging. -/
def Body.alone (b : Body) : Query :=
  ⟨[], b, [], none, none⟩

/-! ## The walk -/

section Branches

variable (op : SetOp) (all : Bool) (left right : Body)

/-- The walk goes through the left side, then through the right one. -/
theorem Body.nodes_setOperation :
    (Body.setOperation op all left right).nodes = left.nodes ++ right.nodes := by
  rw [Body.nodes]

/-- A query with a body alone has the nodes of the body below its own level. -/
theorem Body.nodes_alone (b : Body) : b.alone.nodes = .query b.alone :: b.nodes := by
  simp [Body.alone, Query.nodes, Cte.nodesAll]

theorem selects_setOperation :
    (Statement.query (Body.setOperation op all left right).alone).selects =
      (Statement.query left.alone).selects ++ (Statement.query right.alone).selects := by
  simp [Statement.selects, Statement.nodes, Body.nodes_alone, Body.nodes_setOperation]

theorem predicates_setOperation :
    (Statement.query (Body.setOperation op all left right).alone).predicates =
      (Statement.query left.alone).predicates ++ (Statement.query right.alone).predicates := by
  simp [Statement.predicates, Statement.ownPredicates, selects_setOperation]

/-- The query levels inside a body. -/
def Body.levels (b : Body) : List Query :=
  (Statement.query b.alone).queries.tail

/-- A body alone makes one query level, besides those nested in it. -/
theorem queries_alone (b : Body) : (Statement.query b.alone).queries = b.alone :: b.levels := by
  simp [Body.levels, Statement.queries, Statement.nodes, Body.nodes_alone]

theorem Body.levels_setOperation :
    (Body.setOperation op all left right).levels = left.levels ++ right.levels := by
  simp [Body.levels, Statement.queries, Statement.nodes, Body.nodes_alone, Body.nodes_setOperation]

end Branches

/-! ## Rules -/

/-- The rule finds in a set operation what it finds in the left branch, followed by what it finds in
the right branch. -/
def Rule.SplitsSetOperations (rule : Rule) : Prop :=
  ∀ (catalog : Catalog) (settings : Settings) (op : SetOp) (all : Bool) (left right : Body),
    ∃ first second,
      rule.evaluate ⟨.query left.alone, catalog, settings⟩ = some first ∧
      rule.evaluate ⟨.query right.alone, catalog, settings⟩ = some second ∧
      rule.evaluate ⟨.query (Body.setOperation op all left right).alone, catalog, settings⟩ =
        some (first ++ second)

/-- A rule splits if its remarks do. -/
theorem Rule.splitsSetOperations_ofDetails {info : RuleInfo} {details : Context → List String}
    (hdetails : ∀ (catalog : Catalog) (settings : Settings) (op : SetOp) (all : Bool)
      (left right : Body),
      details ⟨.query (Body.setOperation op all left right).alone, catalog, settings⟩ =
        details ⟨.query left.alone, catalog, settings⟩ ++
          details ⟨.query right.alone, catalog, settings⟩) :
    (Rule.ofDetails info details).SplitsSetOperations := by
  intro catalog settings op all left right
  refine ⟨_, _, rfl, rfl, congrArg some ?_⟩
  rw [hdetails, List.map_append]

/-- Rules that look at blocks one by one. -/
theorem blockRules_splitSetOperations :
    ∀ rule ∈ [Rules.fullScan, Rules.selectStar, Rules.multiJoin, Rules.havingToWhere],
      rule.SplitsSetOperations := by
  simp only [List.forall_mem_cons]
  refine ⟨?_, ?_, ?_, ?_, List.forall_mem_nil _⟩ <;> apply Rule.splitsSetOperations_ofDetails <;>
    intro catalog settings op all left right
  · rw [selects_setOperation, List.flatMap_append]
    rfl
  · rw [selects_setOperation, List.filter_append, List.map_append]
  · dsimp only
    rw [selects_setOperation, List.filter_append, List.map_append]
  · rw [selects_setOperation, List.filterMap_append]

/-- Rules that look at query levels one by one. A level without order and paging has no findings, so
it does not matter that both branches have such a level on top. -/
theorem levelRules_splitSetOperations :
    ∀ rule ∈ [Rules.limitWithoutOrder, Rules.deepOffset], rule.SplitsSetOperations := by
  simp only [List.forall_mem_cons]
  refine ⟨?_, ?_, List.forall_mem_nil _⟩ <;> apply Rule.splitsSetOperations_ofDetails <;>
    intro catalog settings op all left right <;>
    simp only [queries_alone, Body.levels_setOperation]
  · simp [Body.alone]
  · have hnone (b : Body) : b.alone.offsetCount = none := rfl
    simp [hnone]

/-- Rules that look at predicates one by one. -/
theorem predicateRules_splitSetOperations :
    ∀ rule ∈ [Rules.nullComparison, Rules.implicitTypeConversion, Rules.fieldArithmetic],
      rule.SplitsSetOperations := by
  simp only [List.forall_mem_cons]
  refine ⟨?_, ?_, ?_, List.forall_mem_nil _⟩ <;> apply Rule.splitsSetOperations_ofDetails <;>
    intro catalog settings op all left right <;>
    rw [predicates_setOperation, List.flatMap_append]
  -- The scope of a predicate does not depend on the statement around it.
  have hscope (b : Body) : Scope.ofFrom ⟨.query b.alone, catalog, settings⟩ =
      Scope.ofFrom ⟨.other "", catalog, settings⟩ := Scope.ofFrom_congr rfl
  simp only [hscope]

/-- Rules on definitions and changes of tables, which find nothing in a query. -/
theorem definitionRules_splitSetOperations :
    ∀ rule ∈ [Rules.missingPrimaryKey, Rules.tooManyIndexes, Rules.oversizedFieldType,
      Rules.avoidForeignKey, Rules.riskyTypeChange, Rules.addColumnLargeTable,
      Rules.dropColumnWithIndex, Rules.dropIndexVerification], rule.SplitsSetOperations := by
  simp only [List.forall_mem_cons]
  refine ⟨?_, ?_, ?_, ?_, ?_, ?_, ?_, ?_, List.forall_mem_nil _⟩ <;>
    apply Rule.splitsSetOperations_ofDetails <;> intros <;> rfl

/-- Every rule finds in a set operation what it finds in the sides. -/
theorem builtin_splitsSetOperations : ∀ rule ∈ Rules.builtin, rule.SplitsSetOperations := by
  have hblocks := blockRules_splitSetOperations
  have hlevels := levelRules_splitSetOperations
  have hpredicates := predicateRules_splitSetOperations
  have hdefinitions := definitionRules_splitSetOperations
  simp only [List.forall_mem_cons] at hblocks hlevels hpredicates hdefinitions
  obtain ⟨hscan, hstar, hjoin, hhaving, -⟩ := hblocks
  obtain ⟨hlimit, hoffset, -⟩ := hlevels
  obtain ⟨hnull, hconversion, harithmetic, -⟩ := hpredicates
  simp only [Rules.builtin, List.forall_mem_cons]
  exact ⟨hscan, hstar, hjoin, hlimit, hoffset, hhaving, hnull, hconversion, harithmetic,
    hdefinitions⟩

/-- Every built-in rule finds in `left UNION right`, and in the other set operations, what it finds
in `left` followed by what it finds in `right`. -/
theorem setOperation_findings_append (rule : Rule) (hrule : rule ∈ Rules.builtin)
    (catalog : Catalog) (settings : Settings) (op : SetOp) (all : Bool) (left right : Body) :
    ∃ first second,
      rule.evaluate ⟨.query ⟨[], left, [], none, none⟩, catalog, settings⟩ = some first ∧
      rule.evaluate ⟨.query ⟨[], right, [], none, none⟩, catalog, settings⟩ = some second ∧
      rule.evaluate ⟨.query ⟨[], .setOperation op all left right, [], none, none⟩,
        catalog, settings⟩ =
        some (first ++ second) :=
  builtin_splitsSetOperations rule hrule catalog settings op all left right

/-- `SELECT * FROM name`. -/
def wholeTable (name : String) : Body :=
  .select ⟨false, [.all], [⟨.table ⟨[name]⟩ none, []⟩], none, [], none⟩

/-- The finding of `select-star` in `SELECT * FROM name`. -/
def wholeTableFinding (name : String) : Finding :=
  ⟨"select-star", .minor,
    "SELECT * reads every column from `" ++ name ++ "`; list only the columns the caller needs"⟩

/-- `SELECT * FROM t EXCEPT SELECT * FROM u` has one finding for each branch, in the order of the
branches. -/
theorem setOperation_findings_append_except :
    Rules.selectStar ∈ Rules.builtin ∧
    Rules.selectStar.evaluate
        ⟨.query ⟨[], .setOperation .except false (wholeTable "t") (wholeTable "u"), [], none, none⟩,
          .empty, {}⟩ =
      some [wholeTableFinding "t", wholeTableFinding "u"] := by
  have hrule : Rules.selectStar ∈ Rules.builtin := by simp [Rules.builtin]
  have hleft : Rules.selectStar.evaluate ⟨.query ⟨[], wholeTable "t", [], none, none⟩, .empty, {}⟩ =
      some [wholeTableFinding "t"] := by
    decide +kernel
  have hright :
      Rules.selectStar.evaluate ⟨.query ⟨[], wholeTable "u", [], none, none⟩, .empty, {}⟩ =
        some [wholeTableFinding "u"] := by
    decide +kernel
  obtain ⟨first, second, hfirst, hsecond, hboth⟩ :=
    setOperation_findings_append Rules.selectStar hrule
    .empty {} .except false (wholeTable "t") (wholeTable "u")
  cases hfirst.symm.trans hleft
  cases hsecond.symm.trans hright
  exact ⟨hrule, hboth⟩

end SqlAudit
