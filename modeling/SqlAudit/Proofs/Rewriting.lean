import SqlAudit.Proofs.Leaves
import SqlAudit.Walk.Predicates

/-! # Rewriting statements

A rewriting says what becomes of every identifier and of every expression of a statement. It reaches
each expression wherever it stands: in subqueries, `ON` predicates, rows of values, sort keys,
limits and offsets. An expression is rewritten after its parts, so the function of a rewriting only
looks at the top of it. Literals and texts that the review does not look into stay as they are.
-/

namespace SqlAudit

/-- What becomes of the identifiers and the expressions of a statement. -/
structure Rewriting where
  ident : String → String
  /-- Applied to every expression after its parts have been rewritten. -/
  expr : Expr → Expr

variable (r : Rewriting)

def ObjectName.rewrite (n : ObjectName) : ObjectName :=
  ⟨n.parts.map r.ident⟩

def ColumnRef.rewrite (ref : ColumnRef) : ColumnRef :=
  ⟨ref.qualifier.map r.ident, r.ident ref.name⟩

mutual

def Expr.rewrite : Expr → Expr
  | .column ref => r.expr (.column (ref.rewrite r))
  | .literal value => r.expr (.literal value)
  | .binary left op right => r.expr (.binary left.rewrite op right.rewrite)
  | .unary op operand => r.expr (.unary op operand.rewrite)
  | .nested inner => r.expr (.nested inner.rewrite)
  | .isNull operand negated => r.expr (.isNull operand.rewrite negated)
  | .inList operand items negated =>
      r.expr (.inList operand.rewrite (Expr.rewriteAll items) negated)
  | .inQuery operand query negated => r.expr (.inQuery operand.rewrite query.rewrite negated)
  | .existsQuery query negated => r.expr (.existsQuery query.rewrite negated)
  | .scalarQuery query => r.expr (.scalarQuery query.rewrite)
  | .like operand pattern negated caseInsensitive =>
    r.expr (.like operand.rewrite pattern.rewrite negated caseInsensitive)
  | .between operand low high negated =>
    r.expr (.between operand.rewrite low.rewrite high.rewrite negated)
  | .call name args wildcard distinct windowed =>
    r.expr (.call (r.ident name) (Expr.rewriteAll args) wildcard distinct windowed)
  | .caseWhen operand branches otherwise =>
    r.expr (.caseWhen (Expr.rewriteOption operand) (CaseBranch.rewriteAll branches)
      (Expr.rewriteOption otherwise))
  | .cast operand typeName => r.expr (.cast operand.rewrite (r.ident typeName))
  | .other text => r.expr (.other text)

def Expr.rewriteAll : List Expr → List Expr
  | [] => []
  | e :: rest => e.rewrite :: Expr.rewriteAll rest

def Expr.rewriteOption : Option Expr → Option Expr
  | none => none
  | some e => some e.rewrite

def Expr.rewriteRows : List (List Expr) → List (List Expr)
  | [] => []
  | row :: rest => Expr.rewriteAll row :: Expr.rewriteRows rest

def CaseBranch.rewriteAll : List CaseBranch → List CaseBranch
  | [] => []
  | ⟨condition, result⟩ :: rest => ⟨condition.rewrite, result.rewrite⟩ :: CaseBranch.rewriteAll rest

def Query.rewrite : Query → Query
  | ⟨ctes, body, orderBy, limit, offset⟩ =>
    ⟨Cte.rewriteAll ctes, body.rewrite, SortKey.rewriteAll orderBy, Expr.rewriteOption limit,
      Expr.rewriteOption offset⟩

def Cte.rewriteAll : List Cte → List Cte
  | [] => []
  | ⟨name, query⟩ :: rest => ⟨r.ident name, query.rewrite⟩ :: Cte.rewriteAll rest

def SortKey.rewriteAll : List SortKey → List SortKey
  | [] => []
  | ⟨e, ascending⟩ :: rest => ⟨e.rewrite, ascending⟩ :: SortKey.rewriteAll rest

def Body.rewrite : Body → Body
  | .select block => .select block.rewrite
  | .query inner => .query inner.rewrite
  | .setOperation op all left right => .setOperation op all left.rewrite right.rewrite
  | .values rows => .values (Expr.rewriteRows rows)

def Select.rewrite : Select → Select
  | ⟨distinct, items, fromItems, filter, groupBy, having⟩ =>
    ⟨distinct, SelectItem.rewriteAll items, FromItem.rewriteAll fromItems,
      Expr.rewriteOption filter, Expr.rewriteAll groupBy, Expr.rewriteOption having⟩

def SelectItem.rewriteAll : List SelectItem → List SelectItem
  | [] => []
  | .all :: rest => .all :: SelectItem.rewriteAll rest
  | .allOf name :: rest => .allOf (name.rewrite r) :: SelectItem.rewriteAll rest
  | .expr value aliasName :: rest =>
    .expr value.rewrite (aliasName.map r.ident) :: SelectItem.rewriteAll rest

def FromItem.rewriteAll : List FromItem → List FromItem
  | [] => []
  | item :: rest => item.rewrite :: FromItem.rewriteAll rest

def FromItem.rewrite : FromItem → FromItem
  | ⟨relation, joins⟩ => ⟨relation.rewrite, Join.rewriteAll joins⟩

def Join.rewriteAll : List Join → List Join
  | [] => []
  | ⟨relation, on⟩ :: rest => ⟨relation.rewrite, Expr.rewriteOption on⟩ :: Join.rewriteAll rest

def Relation.rewrite : Relation → Relation
  | .table name aliasName => .table (name.rewrite r) (aliasName.map r.ident)
  | .derived query aliasName => .derived query.rewrite (aliasName.map r.ident)
  | .nested item => .nested item.rewrite
  | .function name aliasName => .function (r.ident name) (aliasName.map r.ident)

end

def CaseBranch.rewrite (branch : CaseBranch) : CaseBranch :=
  ⟨branch.condition.rewrite r, branch.result.rewrite r⟩

def Cte.rewrite (cte : Cte) : Cte :=
  ⟨r.ident cte.name, cte.query.rewrite r⟩

def SortKey.rewrite (key : SortKey) : SortKey :=
  ⟨key.expr.rewrite r, key.ascending⟩

def Join.rewrite (join : Join) : Join :=
  ⟨join.relation.rewrite r, join.on.map (Expr.rewrite r)⟩

def SelectItem.rewrite : SelectItem → SelectItem
  | .all => .all
  | .allOf name => .allOf (name.rewrite r)
  | .expr value aliasName => .expr (value.rewrite r) (aliasName.map r.ident)

/-! ## Statements -/

def ColumnOption.rewrite : ColumnOption → ColumnOption
  | .foreignKey table columns => .foreignKey (table.rewrite r) (columns.map r.ident)
  | option => option

def ColumnDef.rewrite (column : ColumnDef) : ColumnDef :=
  ⟨r.ident column.name, r.ident column.typeName, column.options.map (ColumnOption.rewrite r)⟩

def TableConstraint.rewrite : TableConstraint → TableConstraint
  | .primaryKey name columns => .primaryKey (name.map r.ident) (columns.map r.ident)
  | .unique name columns => .unique (name.map r.ident) (columns.map r.ident)
  | .index name columns => .index (name.map r.ident) (columns.map r.ident)
  | .foreignKey name columns table referred =>
    .foreignKey (name.map r.ident) (columns.map r.ident) (table.rewrite r) (referred.map r.ident)
  | .check name text => .check (name.map r.ident) text

def AlterOperation.rewrite : AlterOperation → AlterOperation
  | .addColumn column => .addColumn (column.rewrite r)
  | .dropColumn name => .dropColumn (r.ident name)
  | .modifyColumn name typeName => .modifyColumn (r.ident name) (r.ident typeName)
  | .changeColumn oldName newName typeName =>
    .changeColumn (r.ident oldName) (r.ident newName) (r.ident typeName)
  | .renameColumn oldName newName => .renameColumn (r.ident oldName) (r.ident newName)
  | .addConstraint constraint => .addConstraint (constraint.rewrite r)
  | .dropConstraint name => .dropConstraint (r.ident name)
  | .dropIndex name => .dropIndex (r.ident name)
  | .other text => .other text

def Assignment.rewrite (entry : Assignment) : Assignment :=
  ⟨r.ident entry.target, entry.value.rewrite r⟩

def Insert.rewrite (change : Insert) : Insert :=
  ⟨change.table.rewrite r, change.columns.map r.ident, change.source.map (Query.rewrite r)⟩

def Update.rewrite (change : Update) : Update :=
  ⟨change.table.rewrite r, change.assignments.map (Assignment.rewrite r),
    change.filter.map (Expr.rewrite r)⟩

def Delete.rewrite (change : Delete) : Delete :=
  ⟨change.fromItems.map (FromItem.rewrite r), change.filter.map (Expr.rewrite r)⟩

def Statement.rewrite : Statement → Statement
  | .query q => .query (q.rewrite r)
  | .insert change => .insert (change.rewrite r)
  | .update change => .update (change.rewrite r)
  | .delete change => .delete (change.rewrite r)
  | .createTable definition =>
    .createTable ⟨definition.name.rewrite r, definition.columns.map (ColumnDef.rewrite r),
      definition.constraints.map (TableConstraint.rewrite r)⟩
  | .createIndex definition =>
    .createIndex ⟨definition.name.map r.ident, definition.table.rewrite r,
      definition.columns.map r.ident, definition.unique⟩
  | .alterTable change =>
    .alterTable ⟨change.name.rewrite r, change.operations.map (AlterOperation.rewrite r)⟩
  | .dropIndex change =>
    .dropIndex ⟨change.names.map (ObjectName.rewrite r), change.table.map (ObjectName.rewrite r)⟩
  | .other text => .other text

def Node.rewrite : Node → Node
  | .query q => .query (q.rewrite r)
  | .select block => .select (block.rewrite r)

def Owner.rewrite : Owner → Owner
  | .select block => .select (block.rewrite r)
  | .update change => .update (change.rewrite r)
  | .delete change => .delete (change.rewrite r)

def Predicate.rewrite (p : Predicate) : Predicate :=
  ⟨p.site, p.expr.rewrite r, p.owner.rewrite r⟩

/-! ## Lists and options -/

theorem Expr.rewriteAll_eq (es : List Expr) : Expr.rewriteAll r es = es.map (Expr.rewrite r) := by
  induction es with
  | nil => rfl
  | cons e rest ih => rw [Expr.rewriteAll, ih, List.map_cons]

theorem Expr.rewriteOption_eq (e : Option Expr) :
    Expr.rewriteOption r e = e.map (Expr.rewrite r) := by
  cases e <;> rfl

theorem Expr.rewriteRows_eq (rows : List (List Expr)) :
    Expr.rewriteRows r rows = rows.map (List.map (Expr.rewrite r)) := by
  induction rows with
  | nil => rfl
  | cons row rest ih => rw [Expr.rewriteRows, ih, List.map_cons, Expr.rewriteAll_eq]

theorem CaseBranch.rewriteAll_eq (branches : List CaseBranch) :
    CaseBranch.rewriteAll r branches = branches.map (CaseBranch.rewrite r) := by
  induction branches with
  | nil => rfl
  | cons branch rest ih =>
      obtain ⟨condition, result⟩ := branch
      rw [CaseBranch.rewriteAll, ih, List.map_cons, CaseBranch.rewrite]

theorem Cte.rewriteAll_eq (ctes : List Cte) : Cte.rewriteAll r ctes = ctes.map (Cte.rewrite r) := by
  induction ctes with
  | nil => rfl
  | cons cte rest ih =>
      obtain ⟨name, query⟩ := cte
      rw [Cte.rewriteAll, ih, List.map_cons, Cte.rewrite]

theorem SortKey.rewriteAll_eq (keys : List SortKey) :
    SortKey.rewriteAll r keys = keys.map (SortKey.rewrite r) := by
  induction keys with
  | nil => rfl
  | cons key rest ih =>
      obtain ⟨e, ascending⟩ := key
      rw [SortKey.rewriteAll, ih, List.map_cons, SortKey.rewrite]

theorem Join.rewriteAll_eq (joins : List Join) :
    Join.rewriteAll r joins = joins.map (Join.rewrite r) := by
  induction joins with
  | nil => rfl
  | cons join rest ih =>
      obtain ⟨relation, on⟩ := join
      rw [Join.rewriteAll, ih, List.map_cons, Join.rewrite, Expr.rewriteOption_eq]

theorem SelectItem.rewriteAll_eq (items : List SelectItem) :
    SelectItem.rewriteAll r items = items.map (SelectItem.rewrite r) := by
  induction items with
  | nil => rfl
  | cons item rest ih =>
      cases item <;> rw [SelectItem.rewriteAll, ih, List.map_cons, SelectItem.rewrite]

theorem FromItem.rewriteAll_eq (items : List FromItem) :
    FromItem.rewriteAll r items = items.map (FromItem.rewrite r) := by
  induction items with
  | nil => rfl
  | cons item rest ih => rw [FromItem.rewriteAll, ih, List.map_cons]

/-! ## Expressions with rewritten parts -/

/-- The expression with its parts rewritten, before the function of the rewriting is applied to it.
-/
def Expr.rewriteParts : Expr → Expr
  | .column ref => .column (ref.rewrite r)
  | .literal value => .literal value
  | .binary left op right => .binary (left.rewrite r) op (right.rewrite r)
  | .unary op operand => .unary op (operand.rewrite r)
  | .nested inner => .nested (inner.rewrite r)
  | .isNull operand negated => .isNull (operand.rewrite r) negated
  | .inList operand items negated =>
      .inList (operand.rewrite r) (items.map (Expr.rewrite r)) negated
  | .inQuery operand query negated => .inQuery (operand.rewrite r) (query.rewrite r) negated
  | .existsQuery query negated => .existsQuery (query.rewrite r) negated
  | .scalarQuery query => .scalarQuery (query.rewrite r)
  | .like operand pattern negated caseInsensitive =>
    .like (operand.rewrite r) (pattern.rewrite r) negated caseInsensitive
  | .between operand low high negated =>
    .between (operand.rewrite r) (low.rewrite r) (high.rewrite r) negated
  | .call name args wildcard distinct windowed =>
    .call (r.ident name) (args.map (Expr.rewrite r)) wildcard distinct windowed
  | .caseWhen operand branches otherwise =>
    .caseWhen (operand.map (Expr.rewrite r)) (branches.map (CaseBranch.rewrite r))
      (otherwise.map (Expr.rewrite r))
  | .cast operand typeName => .cast (operand.rewrite r) (r.ident typeName)
  | .other text => .other text

/-- An expression is rewritten after its parts. -/
theorem Expr.rewrite_eq (e : Expr) : e.rewrite r = r.expr (e.rewriteParts r) := by
  cases e <;>
    simp only [Expr.rewrite, Expr.rewriteParts, Expr.rewriteAll_eq, Expr.rewriteOption_eq,
      CaseBranch.rewriteAll_eq]

/-! ## The fields of rewritten blocks and query levels -/

theorem Select.items_rewrite (block : Select) :
    (block.rewrite r).items = block.items.map (SelectItem.rewrite r) := by
  cases block
  exact SelectItem.rewriteAll_eq r _

theorem Select.fromItems_rewrite (block : Select) :
    (block.rewrite r).fromItems = block.fromItems.map (FromItem.rewrite r) := by
  cases block
  exact FromItem.rewriteAll_eq r _

theorem Select.filter_rewrite (block : Select) :
    (block.rewrite r).filter = block.filter.map (Expr.rewrite r) := by
  cases block
  exact Expr.rewriteOption_eq r _

theorem Select.groupBy_rewrite (block : Select) :
    (block.rewrite r).groupBy = block.groupBy.map (Expr.rewrite r) := by
  cases block
  exact Expr.rewriteAll_eq r _

theorem Select.having_rewrite (block : Select) :
    (block.rewrite r).having = block.having.map (Expr.rewrite r) := by
  cases block
  exact Expr.rewriteOption_eq r _

theorem Select.hasWildcard_rewrite (block : Select) :
    (block.rewrite r).hasWildcard = block.hasWildcard := by
  rw [Select.hasWildcard, Select.hasWildcard, Select.items_rewrite, List.any_map]
  congr 1
  funext item
  cases item <;> rfl

theorem Query.orderBy_rewrite (q : Query) :
    (q.rewrite r).orderBy = q.orderBy.map (SortKey.rewrite r) := by
  cases q
  exact SortKey.rewriteAll_eq r _

theorem Query.orderBy_isEmpty_rewrite (q : Query) :
    (q.rewrite r).orderBy.isEmpty = q.orderBy.isEmpty := by
  rw [Query.orderBy_rewrite, List.isEmpty_map]

theorem Query.limit_rewrite (q : Query) : (q.rewrite r).limit = q.limit.map (Expr.rewrite r) := by
  cases q
  exact Expr.rewriteOption_eq r _

theorem Query.offset_rewrite (q : Query) :
    (q.rewrite r).offset = q.offset.map (Expr.rewrite r) := by
  cases q
  exact Expr.rewriteOption_eq r _

/-! ## FROM lists and predicates -/

mutual

theorem FromItem.leaves_rewrite :
    ∀ item : FromItem, (item.rewrite r).leaves = item.leaves.map (Relation.rewrite r)
  | ⟨relation, joins⟩ => by
      simp only [FromItem.rewrite, FromItem.leaves, List.map_append, relation.leaves_rewrite,
        Join.leavesAll_rewrite joins]

theorem Join.leavesAll_rewrite :
    ∀ joins : List Join,
      Join.leavesAll (Join.rewriteAll r joins) = (Join.leavesAll joins).map (Relation.rewrite r)
  | [] => rfl
  | ⟨relation, _⟩ :: rest => by
      simp only [Join.rewriteAll, Join.leavesAll, List.map_append, relation.leaves_rewrite,
        Join.leavesAll_rewrite rest]

/-- Rewriting keeps the leaves and rewrites each. -/
theorem Relation.leaves_rewrite :
    ∀ relation : Relation, (relation.rewrite r).leaves = relation.leaves.map (Relation.rewrite r)
  | .table _ _ => rfl
  | .derived _ _ => rfl
  | .nested item => by simp only [Relation.rewrite, Relation.leaves, item.leaves_rewrite]
  | .function _ _ => rfl

end

theorem FromItem.leavesAll_rewrite (items : List FromItem) :
    FromItem.leavesAll (items.map (FromItem.rewrite r)) =
      (FromItem.leavesAll items).map (Relation.rewrite r) := by
  simp only [FromItem.leavesAll, List.flatMap_map, List.map_flatMap, FromItem.leaves_rewrite]

/-- Rewriting does not change how many relations a block reads. -/
theorem Select.tableCount_rewrite (block : Select) :
    (block.rewrite r).tableCount = block.tableCount := by
  rw [Select.tableCount_eq, Select.tableCount_eq, Select.fromItems_rewrite,
    FromItem.leavesAll_rewrite, List.length_map]

mutual

theorem FromItem.onPredicates_rewrite :
    ∀ item : FromItem, (item.rewrite r).onPredicates = item.onPredicates.map (Expr.rewrite r)
  | ⟨relation, joins⟩ => by
      simp only [FromItem.rewrite, FromItem.onPredicates, List.map_append,
        relation.onPredicates_rewrite, Join.onPredicatesAll_rewrite joins]

theorem Join.onPredicatesAll_rewrite :
    ∀ joins : List Join, Join.onPredicatesAll (Join.rewriteAll r joins) =
      (Join.onPredicatesAll joins).map (Expr.rewrite r)
  | [] => rfl
  | ⟨relation, on⟩ :: rest => by
      simp only [Join.rewriteAll, Join.onPredicatesAll, List.map_append,
        relation.onPredicates_rewrite, Expr.rewriteOption_eq, Option.toList_map,
        Join.onPredicatesAll_rewrite rest]

/-- Rewriting keeps the `ON` predicates and rewrites each. -/
theorem Relation.onPredicates_rewrite :
    ∀ relation : Relation,
      (relation.rewrite r).onPredicates = relation.onPredicates.map (Expr.rewrite r)
  | .table _ _ => rfl
  | .derived _ _ => rfl
  | .nested item => by
      simp only [Relation.rewrite, Relation.onPredicates, item.onPredicates_rewrite]
  | .function _ _ => rfl

end

theorem Owner.fromItems_rewrite (owner : Owner) :
    (owner.rewrite r).fromItems = owner.fromItems.map (FromItem.rewrite r) := by
  cases owner with
  | select block => exact block.fromItems_rewrite r
  | update change => rfl
  | delete change => rfl

/-- A rewritten block has the rewritten predicates, in the same order. -/
theorem Select.predicates_rewrite (block : Select) :
    (block.rewrite r).predicates = block.predicates.map (Predicate.rewrite r) := by
  simp only [Select.predicates, Select.filter_rewrite, Select.fromItems_rewrite,
    Select.having_rewrite, Option.toList_map, List.flatMap_map, FromItem.onPredicates_rewrite,
    List.map_append, List.map_map, List.map_flatMap]
  rfl

theorem Statement.ownPredicates_rewrite (s : Statement) :
    (s.rewrite r).ownPredicates = s.ownPredicates.map (Predicate.rewrite r) := by
  cases s with
  | update change =>
      simp only [Statement.rewrite, Statement.ownPredicates, Update.rewrite, Option.toList_map,
        List.map_map]
      rfl
  | delete change =>
      simp only [Statement.rewrite, Statement.ownPredicates, Delete.rewrite, Option.toList_map,
        List.map_map]
      rfl
  | _ => rfl

end SqlAudit
