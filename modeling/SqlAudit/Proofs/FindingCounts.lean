import SqlAudit.Proofs.LetterCase
import SqlAudit.Proofs.Ranking
import SqlAudit.Proofs.RewrittenWalk

/-! # Numbers of findings

A finding of a built-in rule has the id and the severity of the rule, so what a report shows besides
the details is settled by the number of findings of each rule. Two reviews under the same settings
in which every built-in rule finds equally many things show the same sequence of rule ids and
severities.

Some rules keep their number of findings under every rewriting that keeps what the walk finds,
others need that literals stay or that names stay up to letter case.
-/

namespace SqlAudit

/-! ## Reports -/

/-- What a finding shows besides its detail. -/
def Finding.tag (f : Finding) : String × Severity :=
  (f.ruleId, f.severity)

/-- The number of findings of a rule. -/
def Rule.count (rule : Rule) (ctx : Context) : Nat :=
  ((rule.evaluate ctx).getD []).length

/-- A rule that is given by its remarks makes one finding for each. -/
theorem Rule.count_ofDetails (info : RuleInfo) (details : Context → List String) (ctx : Context) :
    (Rule.ofDetails info details).count ctx = (details ctx).length :=
  List.length_map _

/-- All findings of a rule carry the rule's own id and severity. -/
theorem Rule.tags_ofDetails (info : RuleInfo) (details : Context → List String) (ctx : Context) :
    (((Rule.ofDetails info details).evaluate ctx).getD []).map Finding.tag =
      List.replicate ((Rule.ofDetails info details).count ctx) (info.id, info.severity) := by
  rw [Rule.count_ofDetails]
  have htag : Finding.tag ∘ info.finding = fun _ => (info.id, info.severity) := rfl
  rw [Rule.ofDetails, Option.getD_some, List.map_map, htag, List.map_const']

/-- Each finding of a built-in rule has the id and the severity of the rule. -/
theorem builtin_tags (ctx : Context) :
    ∀ rule ∈ Rules.builtin, ((rule.evaluate ctx).getD []).map Finding.tag =
      List.replicate (rule.count ctx) (rule.info.id, rule.info.severity) := by
  intro rule hrule
  obtain ⟨info, details, rfl⟩ := builtin_ofDetails rule hrule
  exact Rule.tags_ofDetails info details ctx

/-- A built-in rule never breaks down, so it has the findings that are counted. -/
theorem builtin_finds (ctx : Context) :
    ∀ rule ∈ Rules.builtin, ∃ found, rule.evaluate ctx = some found ∧
      found.length = rule.count ctx := by
  intro rule hrule
  obtain ⟨info, details, rfl⟩ := builtin_ofDetails rule hrule
  exact ⟨_, rfl, rfl⟩

/-- Ranking groups the tags by severity and keeps their order otherwise. -/
theorem Finding.rank_tags (findings : List Finding) :
    (Finding.rank findings).map Finding.tag =
      Severity.ranking.flatMap fun s => (findings.map Finding.tag).filter (·.2 == s) := by
  simp only [Finding.rank, List.map_flatMap, List.filter_map]
  rfl

/-- The tags of a report follow from the tags of the emissions: overriding severities and ranking do
not look at details. -/
theorem review_tags_eq (rules : List Rule) (settings : Settings) (catalog : Catalog)
    (s : Statement) :
    (review rules settings catalog s).findings.map Finding.tag =
      Severity.ranking.flatMap fun severity =>
        (((emissions rules ⟨s, catalog, settings⟩).map Finding.tag).map fun tag =>
          (tag.1, finalSeverity rules settings ⟨tag.1, tag.2, ""⟩)).filter (·.2 == severity) := by
  rw [review_findings_eq, Finding.rank_tags, List.map_map, List.map_map]
  rfl

/-- The built-in rules emit the tag of each enabled rule as often as the rule has findings. -/
theorem emissions_builtin_tags (ctx : Context) :
    (emissions Rules.builtin ctx).map Finding.tag = Rules.builtin.flatMap fun rule =>
      if ctx.settings.isDisabled rule.info.id then []
      else List.replicate (rule.count ctx) (rule.info.id, rule.info.severity) := by
  rw [emissions, List.map_flatMap]
  refine List.flatMap_congr fun rule hrule => ?_
  split
  next => rfl
  next => exact builtin_tags ctx rule hrule

/-- Where every built-in rule finds equally many things, reports show the same tags. -/
theorem review_tags_eq_of_counts {settings : Settings} {catalog : Catalog} {s s' : Statement}
    (hcounts : ∀ rule ∈ Rules.builtin,
      rule.count ⟨s, catalog, settings⟩ = rule.count ⟨s', catalog, settings⟩) :
    (review Rules.builtin settings catalog s).findings.map Finding.tag =
      (review Rules.builtin settings catalog s').findings.map Finding.tag := by
  have hemissions : (emissions Rules.builtin ⟨s, catalog, settings⟩).map Finding.tag =
      (emissions Rules.builtin ⟨s', catalog, settings⟩).map Finding.tag := by
    rw [emissions_builtin_tags, emissions_builtin_tags]
    exact List.flatMap_congr fun rule hrule => by rw [hcounts rule hrule]
  rw [review_tags_eq, review_tags_eq, hemissions]

/-! ## Rewritten statements -/

/-- A statement and its rewriting give the rule equally many findings. -/
def Rewriting.KeepsCount (r : Rewriting) (rule : Rule) : Prop :=
  ∀ (s : Statement) (catalog : Catalog) (settings : Settings),
    rule.count ⟨s.rewrite r, catalog, settings⟩ = rule.count ⟨s, catalog, settings⟩

/-- The rewriting leaves the literal that an expression is. -/
def Rewriting.KeepsLiterals (r : Rewriting) : Prop :=
  ∀ e, (r.expr e).asLiteral = e.asLiteral

section Rewritten

variable {r : Rewriting}

theorem Expr.asLiteral_rewrite (hr : r.KeepsLiterals) (e : Expr) :
    (e.rewrite r).asLiteral = e.asLiteral := by
  fun_induction Expr.asLiteral e with
  | case1 value => rw [Expr.rewrite, hr, Expr.asLiteral]
  | case2 inner ih => rw [Expr.rewrite, hr, Expr.asLiteral, ih]
  | case3 e hliteral hnested =>
      cases e with
      | literal value => exact (hliteral value rfl).elim
      | nested inner => exact (hnested inner rfl).elim
      | _ => exact hr _

namespace Rewriting.PermutesNodes

/-- Rewriting keeps the wildcards of each block, and the order of the blocks does not matter for the
count. -/
theorem selectStar (hr : r.PermutesNodes) : r.KeepsCount Rules.selectStar := by
  intro s catalog settings
  have hwildcard : Select.hasWildcard ∘ Select.rewrite r = Select.hasWildcard :=
    funext (Select.hasWildcard_rewrite r)
  simp only [Rules.selectStar, Rule.count_ofDetails, List.length_map]
  rw [((s.selects_rewrite hr).filter _).length_eq, List.filter_map, List.length_map, hwildcard]

theorem multiJoin (hr : r.PermutesNodes) : r.KeepsCount Rules.multiJoin := by
  intro s catalog settings
  simp only [Rules.multiJoin, Rule.count_ofDetails, List.length_map]
  rw [((s.selects_rewrite hr).filter _).length_eq, List.filter_map, List.length_map]
  simp only [Function.comp_def, Select.tableCount_rewrite]

theorem limitWithoutOrder (hr : r.PermutesNodes) : r.KeepsCount Rules.limitWithoutOrder := by
  intro s catalog settings
  simp only [Rules.limitWithoutOrder, Rule.count_ofDetails, List.length_map]
  rw [(((s.queries_rewrite hr).filter _).filterMap _).length_eq]
  simp only [List.filter_map, Function.comp_def, Query.orderBy_isEmpty_rewrite, List.filterMap_map,
    Query.limit_rewrite, ← List.map_filterMap, List.length_map]

/-- Offsets are literals, so they have to be kept too. -/
theorem deepOffset (hr : r.PermutesNodes) (hliterals : r.KeepsLiterals) :
    r.KeepsCount Rules.deepOffset := by
  intro s catalog settings
  have hoffset : Query.offsetCount ∘ Query.rewrite r = Query.offsetCount := by
    funext q
    rw [Function.comp_apply, Query.offsetCount, Query.offsetCount, Query.offset_rewrite]
    cases q.offset with
    | none => rfl
    | some offset =>
        rw [Option.map_some, Option.bind_some, Option.bind_some, Expr.countLiteral,
          Expr.countLiteral, offset.asLiteral_rewrite hliterals]
  simp only [Rules.deepOffset, Rule.count_ofDetails, List.length_map]
  rw [(((s.queries_rewrite hr).filterMap _).filter _).length_eq, List.filterMap_map, hoffset]

end Rewriting.PermutesNodes

/-! ## Counting over rewritten lists -/

theorem length_flatMap_map {α β : Type} {f g : α → List β} {change : α → α} {l : List α}
    (hf : ∀ a ∈ l, (f (change a)).length = (g a).length) :
    ((l.map change).flatMap f).length = (l.flatMap g).length := by
  rw [List.flatMap_map, List.length_flatMap, List.length_flatMap]
  exact congrArg List.sum (List.map_congr_left hf)

theorem length_filterMap_map {α β : Type} {f g : α → Option β} {change : α → α} {l : List α}
    (hf : ∀ a ∈ l, (f (change a)).isSome = (g a).isSome) :
    ((l.map change).filterMap f).length = (l.filterMap g).length := by
  rw [List.length_filterMap_eq_countP, List.length_filterMap_eq_countP, List.countP_map]
  refine List.countP_congr fun a ha => ?_
  rw [Function.comp_apply, hf a ha]

namespace Rules

/-! ## Single nodes and blocks -/

/-- A block without a filter gives a remark for each candidate, one with a filter at most one in
all. -/
theorem length_fullScanOf (ctx : Context) (block : Select) :
    (fullScanOf ctx block).length = match block.filter with
      | none => (scanCandidates ctx block).length
      | some filter =>
          if !(scanCandidates ctx block).isEmpty && (scanShape filter).isSome then 1 else 0 := by
  rw [fullScanOf]
  cases hcandidates : scanCandidates ctx block with
  | nil => cases block.filter <;> rfl
  | cons first rest =>
      cases block.filter with
      | none => exact List.length_map _
      | some filter => cases hshape : scanShape filter <;> simp [hshape]

/-- A comparison is reported once, even if both sides are `NULL`. -/
theorem isSome_nullComparisonOf (left right : Expr) (op : BinaryOp) :
    (nullComparisonOf (.binary left op right)).isSome =
      ((nullTest op).isSome && (left.isNullLiteral || right.isNullLiteral)) := by
  rw [nullComparisonOf]
  cases nullTest op with
  | none => rfl
  | some test => cases left.isNullLiteral || right.isNullLiteral <;> rfl

/-- A comparison is reported once for each side with arithmetic on a column. -/
theorem length_fieldArithmeticOf (left right : Expr) (op : BinaryOp) :
    (fieldArithmeticOf (.binary left op right)).length =
      if op.isComparison then [left, right].countP fun side => (arithmeticColumn side).isSome
      else 0 := by
  rw [fieldArithmeticOf]
  split
  next => simp only [List.length_filterMap_eq_countP, Option.isSome_map]
  next => rfl

/-- A block is reported if some column of its `HAVING` is not the alias of an aggregate. -/
theorem isSome_havingToWhereOf (block : Select) :
    (havingToWhereOf block).isSome = block.having.any fun having =>
      (plainColumns having).any (!isAggregateAlias (aggregateAliases block) ·) := by
  have hdistinct (texts : List String) : (distinctTexts texts).isEmpty = texts.isEmpty := by
    cases texts <;> rfl
  rw [havingToWhereOf]
  cases block.having with
  | none => rfl
  | some having =>
      have hempty : (earlyColumns block having).isEmpty =
          !(plainColumns having).any (!isAggregateAlias (aggregateAliases block) ·) := by
        rw [Bool.eq_iff_iff]
        simp [earlyColumns, hdistinct]
      simp only [Option.bind_some, Option.any_some, hempty]
      cases (plainColumns having).any (!isAggregateAlias (aggregateAliases block) ·) <;> rfl

theorem listedRelations_rewrite (item : FromItem) :
    listedRelations (item.rewrite r) = (listedRelations item).map (Relation.rewrite r) := by
  obtain ⟨relation, joins⟩ := item
  rw [FromItem.rewrite, listedRelations, listedRelations, Join.rewriteAll_eq, List.map_cons,
    List.map_map, List.map_map]
  rfl

/-- A rewriting that keeps letters leaves the tables that a block might read whole. -/
theorem scanCandidates_rewrite (hr : r.KeepsLetters) (ctx : Context) (block : Select) :
    scanCandidates ctx (block.rewrite r) = scanCandidates ctx block := by
  have hlisted : (block.rewrite r).fromItems.flatMap listedRelations =
      (block.fromItems.flatMap listedRelations).map (Relation.rewrite r) := by
    rw [Select.fromItems_rewrite, List.flatMap_map, List.map_flatMap]
    simp only [listedRelations_rewrite]
  rw [scanCandidates, scanCandidates, hlisted, List.filterMap_map]
  congr 2
  funext relation
  cases relation with
  | table name aliasName =>
      simp only [Function.comp_apply, Relation.rewrite, ctx.table?_rewrite hr]
  | _ => rfl

/-! ## Definitions of tables -/

/-- A test of the definition under review that no rewriting changes. -/
theorem length_filter_definedTable_rewrite {p : CreateTable → Bool}
    (hp : ∀ (definition : CreateTable) (name : ObjectName),
      p ⟨name, definition.columns.map (ColumnDef.rewrite r),
        definition.constraints.map (TableConstraint.rewrite r)⟩ = p definition)
    (s : Statement) (catalog : Catalog) (settings : Settings) :
    ((definedTable ⟨s.rewrite r, catalog, settings⟩).toList.filter p).length =
      ((definedTable ⟨s, catalog, settings⟩).toList.filter p).length := by
  cases s with
  | createTable definition =>
      simp only [Statement.rewrite, definedTable, Option.toList_some, List.filter_singleton,
        hp definition]
      cases p definition <;> rfl
  | _ => rfl

theorem hasPrimaryKey_rewrite (definition : CreateTable) (name : ObjectName) :
    CreateTable.hasPrimaryKey ⟨name, definition.columns.map (ColumnDef.rewrite r),
      definition.constraints.map (TableConstraint.rewrite r)⟩ = definition.hasPrimaryKey := by
  have hcolumn (column : ColumnDef) : (column.rewrite r).isPrimaryKey = column.isPrimaryKey := by
    rw [ColumnDef.isPrimaryKey, ColumnDef.isPrimaryKey, ColumnDef.rewrite, List.any_map]
    congr 1
    funext option
    cases option <;> rfl
  simp only [CreateTable.hasPrimaryKey, List.any_map, Function.comp_def, hcolumn]
  congr 2
  funext constraint
  cases constraint <;> rfl

theorem secondaryIndexCount_rewrite (definition : CreateTable) (name : ObjectName) :
    secondaryIndexCount ⟨name, definition.columns.map (ColumnDef.rewrite r),
      definition.constraints.map (TableConstraint.rewrite r)⟩ = secondaryIndexCount definition := by
  have hcolumn (column : ColumnDef) :
      (column.rewrite r).options.contains .unique = column.options.contains .unique := by
    rw [ColumnDef.rewrite, List.contains_eq_any_beq, List.contains_eq_any_beq, List.any_map]
    congr 1
    funext option
    cases option <;> rfl
  simp only [secondaryIndexCount, List.countP_map, Function.comp_def, hcolumn]
  congr 2
  funext constraint
  cases constraint <;> rfl

theorem length_columnForeignKeys_rewrite (table table' : String) (column : ColumnDef) :
    (columnForeignKeys table (column.rewrite r)).length =
      (columnForeignKeys table' column).length := by
  refine length_filterMap_map fun option _ => ?_
  cases option <;> rfl

theorem isSome_constraintForeignKey_rewrite (table table' : String) (constraint : TableConstraint) :
    (constraintForeignKey table (constraint.rewrite r)).isSome =
      (constraintForeignKey table' constraint).isSome := by
  cases constraint <;> rfl

theorem length_operationForeignKeys_rewrite (table table' : String) (op : AlterOperation) :
    (operationForeignKeys table (op.rewrite r)).length =
      (operationForeignKeys table' op).length := by
  cases op with
  | addConstraint constraint => cases constraint <;> rfl
  | addColumn column => exact length_columnForeignKeys_rewrite table table' column
  | _ => rfl

/-! ## Changes of tables -/

/-- The table in question is found as before, since names are found in any case. -/
theorem alteredTable_rewrite (hr : r.KeepsLetters) (s : Statement) (catalog : Catalog)
    (settings : Settings) :
    alteredTable ⟨s.rewrite r, catalog, settings⟩ =
      (alteredTable ⟨s, catalog, settings⟩).map fun found =>
      (⟨found.1.name.rewrite r, found.1.operations.map (AlterOperation.rewrite r)⟩, found.2) := by
  cases s with
  | alterTable change =>
      have htable := Context.table?_rewrite hr ⟨.alterTable change, catalog, settings⟩ change.name
      rw [alteredTable, alteredTable, Option.map_map, ← htable]
      rfl
  | _ => rfl

/-- A change of type is reported if it was before. -/
theorem isSome_typeChangeOf_rewrite (hr : r.KeepsLetters) (table : Table) (op : AlterOperation) :
    (typeChangeOf table (op.rewrite r)).isSome = (typeChangeOf table op).isSome := by
  have hsetting : typeSetting (op.rewrite r) = (typeSetting op).map (Prod.map r.ident r.ident) := by
    cases op <;> rfl
  rw [typeChangeOf, typeChangeOf, hsetting]
  cases typeSetting op with
  | none => rfl
  | some setting =>
      obtain ⟨name, declared⟩ := setting
      simp only [Option.map_some, Prod.map_apply, Option.bind_eq_bind, Option.bind_some,
        table.column_rewrite hr, TypeName.normalize_rewrite hr]

theorem isSome_indexedDropOf_rewrite (hr : r.KeepsLetters) (table : Table) (op : AlterOperation) :
    (indexedDropOf table (op.rewrite r)).isSome = (indexedDropOf table op).isSome := by
  cases op with
  | dropColumn column =>
      simp only [AlterOperation.rewrite, indexedDropOf, table.indexesOn_rewrite hr]
      split <;> rfl
  | _ => rfl

end Rules

/-! ## Rules on definitions -/

theorem Rewriting.missingPrimaryKey (r : Rewriting) : r.KeepsCount Rules.missingPrimaryKey := by
  intro s catalog settings
  simp only [Rules.missingPrimaryKey, Rule.count_ofDetails, List.length_map]
  refine Rules.length_filter_definedTable_rewrite (fun definition name => ?_) s catalog settings
  rw [Rules.hasPrimaryKey_rewrite]

theorem Rewriting.tooManyIndexes (r : Rewriting) : r.KeepsCount Rules.tooManyIndexes := by
  intro s catalog settings
  simp only [Rules.tooManyIndexes, Rule.count_ofDetails, List.length_map]
  refine Rules.length_filter_definedTable_rewrite (fun definition name => ?_) s catalog settings
  rw [Rules.secondaryIndexCount_rewrite]

theorem Rewriting.avoidForeignKey (r : Rewriting) : r.KeepsCount Rules.avoidForeignKey := by
  intro s catalog settings
  rw [Rules.avoidForeignKey, Rule.count_ofDetails, Rule.count_ofDetails]
  cases s with
  | createTable definition =>
      dsimp only [Statement.rewrite]
      rw [List.length_append, List.length_append,
        length_flatMap_map fun column _ => Rules.length_columnForeignKeys_rewrite _ _ column,
        length_filterMap_map fun constraint _ =>
          Rules.isSome_constraintForeignKey_rewrite _ _ constraint]
  | alterTable change =>
      exact length_flatMap_map fun op _ => Rules.length_operationForeignKeys_rewrite _ _ op
  | _ => rfl

theorem Rewriting.dropIndexVerification (r : Rewriting) :
    r.KeepsCount Rules.dropIndexVerification := by
  intro s catalog settings
  rw [Rules.dropIndexVerification, Rule.count_ofDetails, Rule.count_ofDetails]
  cases s with
  | dropIndex change => simp only [Statement.rewrite, List.length_map]
  | alterTable change =>
      refine length_filterMap_map fun op _ => ?_
      cases op <;> rfl
  | _ => rfl

namespace Rewriting.KeepsLetters

theorem oversizedFieldType (hr : r.KeepsLetters) : r.KeepsCount Rules.oversizedFieldType := by
  intro s catalog settings
  cases s with
  | createTable definition =>
      simp only [Rules.oversizedFieldType, Rule.count_ofDetails, Statement.rewrite,
        Rules.definedTable, Option.toList_some, List.flatMap_singleton, List.length_map,
        List.filter_map, Function.comp_def, ColumnDef.rewrite, TypeName.normalize_rewrite hr]
  | _ => rfl

theorem riskyTypeChange (hr : r.KeepsLetters) : r.KeepsCount Rules.riskyTypeChange := by
  intro s catalog settings
  rw [Rules.riskyTypeChange, Rule.count_ofDetails, Rule.count_ofDetails,
    Rules.alteredTable_rewrite hr]
  cases Rules.alteredTable ⟨s, catalog, settings⟩ with
  | none => rfl
  | some found =>
      exact length_filterMap_map fun op _ => Rules.isSome_typeChangeOf_rewrite hr found.2 op

theorem addColumnLargeTable (hr : r.KeepsLetters) : r.KeepsCount Rules.addColumnLargeTable := by
  intro s catalog settings
  rw [Rules.addColumnLargeTable, Rule.count_ofDetails, Rule.count_ofDetails,
    Rules.alteredTable_rewrite hr]
  cases Rules.alteredTable ⟨s, catalog, settings⟩ with
  | none => rfl
  | some found =>
      dsimp only [Option.map_some]
      cases found.2.rowCount with
      | none => rfl
      | some rows =>
          dsimp only
          split
          next =>
            refine length_filterMap_map fun op _ => ?_
            cases op <;> rfl
          next => rfl

theorem dropColumnWithIndex (hr : r.KeepsLetters) : r.KeepsCount Rules.dropColumnWithIndex := by
  intro s catalog settings
  rw [Rules.dropColumnWithIndex, Rule.count_ofDetails, Rule.count_ofDetails,
    Rules.alteredTable_rewrite hr]
  cases Rules.alteredTable ⟨s, catalog, settings⟩ with
  | none => rfl
  | some found =>
      exact length_filterMap_map fun op _ => Rules.isSome_indexedDropOf_rewrite hr found.2 op

/-- The rules on table design and on schema changes compare names in any case. -/
theorem definitionRules (hr : r.KeepsLetters) :
    ∀ rule ∈ [Rules.missingPrimaryKey, Rules.tooManyIndexes, Rules.oversizedFieldType,
      Rules.avoidForeignKey, Rules.riskyTypeChange, Rules.addColumnLargeTable,
      Rules.dropColumnWithIndex, Rules.dropIndexVerification], r.KeepsCount rule := by
  simp only [List.forall_mem_cons]
  exact ⟨r.missingPrimaryKey, r.tooManyIndexes, hr.oversizedFieldType, r.avoidForeignKey,
    hr.riskyTypeChange, hr.addColumnLargeTable, hr.dropColumnWithIndex, r.dropIndexVerification,
    List.forall_mem_nil _⟩

end Rewriting.KeepsLetters

end Rewritten

end SqlAudit
