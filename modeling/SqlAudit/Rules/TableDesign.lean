import SqlAudit.Review.Rule
import SqlAudit.Tree.Statement

/-! # Rules on table design

Tables without a primary key, tables with many indexes, large object columns and foreign keys.
-/

namespace SqlAudit.Rules

/-- The `CREATE TABLE` under review, if the statement is one. -/
def definedTable (ctx : Context) : Option CreateTable :=
  match ctx.statement with
  | .createTable definition => some definition
  | _ => none

def missingPrimaryKeyInfo : RuleInfo :=
  ⟨"missing-primary-key", "Table without primary key", .blocker, .schema⟩

def missingPrimaryKey : Rule :=
  .ofDetails missingPrimaryKeyInfo fun ctx =>
    ((definedTable ctx).toList.filter (!·.hasPrimaryKey)).map fun definition =>
      "Table `" ++ definition.name.toText ++ "` has no primary key; declare one (for example an " ++
        "auto-increment `id`) so rows can be addressed and replicated safely"

def tooManyIndexesInfo : RuleInfo :=
  ⟨"too-many-indexes", "Too many indexes", .minor, .schema⟩

/-- The number of secondary indexes a table definition asks for: index and uniqueness constraints,
and columns declared unique. -/
def secondaryIndexCount (definition : CreateTable) : Nat :=
  definition.constraints.countP (fun
    | .index _ _ | .unique _ _ => true
    | _ => false) +
  definition.columns.countP (·.options.contains .unique)

/-- Table definitions with more secondary indexes than allowed. -/
def tooManyIndexes : Rule :=
  .ofDetails tooManyIndexesInfo fun ctx =>
    let most := ctx.settings.thresholds.maxTableIndexes
    ((definedTable ctx).toList.filter (secondaryIndexCount · > most)).map fun definition =>
      "Table `" ++ definition.name.toText ++ "` declares " ++
        toString (secondaryIndexCount definition) ++ " secondary indexes (limit " ++
        toString most ++
        "); every index slows down writes, keep only those backing real query patterns"

def oversizedFieldTypeInfo : RuleInfo :=
  ⟨"oversized-field-type", "Large object column", .minor, .schema⟩

def oversizedFieldType : Rule :=
  .ofDetails oversizedFieldTypeInfo fun ctx =>
    (definedTable ctx).toList.flatMap fun definition =>
      (definition.columns.filter fun c =>
        TypeName.isLargeObject (TypeName.normalize c.typeName)).map
        fun c =>
          "Column `" ++ definition.name.toText ++ "." ++ c.name ++ "` is declared " ++ c.typeName ++
            "; large objects are stored off-row and slow down scans, " ++
            "use a bounded VARCHAR or move the payload to a separate table"

def avoidForeignKeyInfo : RuleInfo :=
  ⟨"avoid-foreign-key", "Foreign key constraint", .critical, .schema⟩

def foreignKeyRemark (table columns target : String) : String :=
  "Foreign key on `" ++ table ++ "` (" ++ columns ++ ") referencing `" ++ target ++
    "` adds locking and cascades on every write; enforce the relation in the application instead"

def columnForeignKeys (table : String) (column : ColumnDef) : List String :=
  column.options.filterMap fun
    | .foreignKey target _ => some (foreignKeyRemark table column.name target.toText)
    | _ => none

def constraintForeignKey (table : String) : TableConstraint → Option String
  | .foreignKey _ columns target _ =>
    some (foreignKeyRemark table (Text.joinWith ", " columns) target.toText)
  | _ => none

def operationForeignKeys (table : String) : AlterOperation → List String
  | .addConstraint constraint => (constraintForeignKey table constraint).toList
  | .addColumn column => columnForeignKeys table column
  | _ => []

/-- Foreign keys that a statement declares or adds. -/
def avoidForeignKey : Rule :=
  .ofDetails avoidForeignKeyInfo fun ctx =>
    match ctx.statement with
    | .createTable definition =>
      definition.columns.flatMap (columnForeignKeys definition.name.toText) ++
        definition.constraints.filterMap (constraintForeignKey definition.name.toText)
    | .alterTable change => change.operations.flatMap (operationForeignKeys change.name.toText)
    | _ => []

end SqlAudit.Rules
