import SqlAudit.Rules.QueryShape

/-! # Rules on schema changes

Type changes, new columns on large tables, dropped columns that an index uses, and dropped indexes.
-/

namespace SqlAudit.Rules

/-- The `ALTER TABLE` under review with its catalog table, when the statement is one and the table
is known. -/
def alteredTable (ctx : Context) : Option (AlterTable × Table) :=
  match ctx.statement with
  | .alterTable change => (ctx.table? change.name).map (change, ·)
  | _ => none

def riskyTypeChangeInfo : RuleInfo :=
  ⟨"risky-type-change", "Column type change", .critical, .migration⟩

/-- The column and declared type of an operation that sets a column's type. -/
def typeSetting : AlterOperation → Option (String × String)
  | .modifyColumn name declared => some (name, declared)
  | .changeColumn oldName _ declared => some (oldName, declared)
  | _ => none

/-- The remark on a column of a table whose type is going to change. -/
def retypingRemark (table : Table) (column : Column) (target : String) : String :=
  "Changing `" ++ table.name ++ "." ++ column.name ++ "` from " ++ column.typeName ++
    " to " ++ target ++ " rewrites the whole table and may truncate or reject existing values; " ++
    "add a new column, backfill it, then switch over"

/-- The remark on one operation, if it changes the type of a known column. -/
def typeChangeOf (table : Table) (op : AlterOperation) : Option String := do
  let (name, declared) ← typeSetting op
  let column ← table.column name
  let target := TypeName.normalize declared
  if target = column.typeName then none else some (retypingRemark table column target)

/-- Changes of the type of a known column. -/
def riskyTypeChange : Rule :=
  .ofDetails riskyTypeChangeInfo fun ctx =>
    match alteredTable ctx with
    | some (change, table) => change.operations.filterMap (typeChangeOf table)
    | none => []

def addColumnLargeTableInfo : RuleInfo :=
  ⟨"add-column-large-table", "ADD COLUMN on large table", .critical, .migration⟩

def addedColumnOf (table : Table) (rows limit : Nat) : AlterOperation → Option String
  | .addColumn column =>
    some ("Adding column `" ++ column.name ++ "` to `" ++ table.name ++ "` (~" ++ toString rows ++
      " rows, threshold " ++ toString limit ++ ") may lock or copy the table; " ++
      "run it with an online schema change tool during low traffic")
  | _ => none

/-- New columns on a table with many rows. -/
def addColumnLargeTable : Rule :=
  .ofDetails addColumnLargeTableInfo fun ctx =>
    match alteredTable ctx with
    | some (change, table) =>
      let limit := ctx.settings.thresholds.largeTableRows
      match table.rowCount with
      | some rows =>
        if rows > limit then change.operations.filterMap (addedColumnOf table rows limit) else []
      | none => []
    | none => []

def dropColumnWithIndexInfo : RuleInfo :=
  ⟨"drop-column-with-index", "DROP COLUMN used by index", .critical, .migration⟩

def indexedDropOf (table : Table) : AlterOperation → Option String
  | .dropColumn column =>
    let names := (table.indexesOn column).map (·.name)
    if names.isEmpty then none
    else some ("Dropping `" ++ table.name ++ "." ++ column ++ "` affects index(es) " ++
      quotedNames names ++ "; review and drop or rebuild them first")
  | _ => none

/-- Dropped columns that an index lists. -/
def dropColumnWithIndex : Rule :=
  .ofDetails dropColumnWithIndexInfo fun ctx =>
    match alteredTable ctx with
    | some (change, table) => change.operations.filterMap (indexedDropOf table)
    | none => []

def dropIndexVerificationInfo : RuleInfo :=
  ⟨"drop-index-verification", "DROP INDEX", .critical, .migration⟩

/-- The remark on a dropped index, with its table where the statement names one. -/
def droppedIndexRemark (index : String) (table : Option String) : String :=
  "Before dropping index `" ++ index ++ "`" ++
    ((table.map fun t => " on `" ++ t ++ "`").getD "") ++
    ", confirm in index usage statistics and the slow query log " ++
    "that no query relies on it; consider making it invisible first"

/-- Dropped indexes, by a statement of their own or inside an `ALTER TABLE`. -/
def dropIndexVerification : Rule :=
  .ofDetails dropIndexVerificationInfo fun ctx =>
    match ctx.statement with
    | .dropIndex change =>
      change.names.map fun n => droppedIndexRemark n.toText (change.table.map ObjectName.toText)
    | .alterTable change =>
      change.operations.filterMap fun
        | .dropIndex name => some (droppedIndexRemark name (some change.name.toText))
        | _ => none
    | _ => []

end SqlAudit.Rules
