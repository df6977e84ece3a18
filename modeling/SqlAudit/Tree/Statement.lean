import SqlAudit.Text.Natural
import SqlAudit.Total
import SqlAudit.Tree.Expr

/-! # Statements

One parsed statement: a query, a change of rows, a change of the schema, or anything else, of which
only the normalised text is kept.
-/

namespace SqlAudit

/-- A constraint or attribute of a column definition. -/
inductive ColumnOption where
  | null
  | notNull
  | primaryKey
  | unique
  | foreignKey (table : ObjectName) (columns : List String)
  | default (text : String)
  | other (text : String)
  deriving DecidableEq, Repr, Inhabited

/-- A column of a `CREATE TABLE` or an `ADD COLUMN`; the type is the declared text. -/
structure ColumnDef where
  name : String
  typeName : String
  options : List ColumnOption
  deriving DecidableEq, Repr, Inhabited

inductive TableConstraint where
  | primaryKey (name : Option String) (columns : List String)
  | unique (name : Option String) (columns : List String)
  | index (name : Option String) (columns : List String)
  | foreignKey (name : Option String) (columns : List String) (table : ObjectName)
      (referred : List String)
  | check (name : Option String) (text : String)
  deriving DecidableEq, Repr, Inhabited

inductive AlterOperation where
  | addColumn (column : ColumnDef)
  | dropColumn (name : String)
  | modifyColumn (name typeName : String)
  | changeColumn (oldName newName typeName : String)
  | renameColumn (oldName newName : String)
  | addConstraint (constraint : TableConstraint)
  | dropConstraint (name : String)
  | dropIndex (name : String)
  | other (text : String)
  deriving DecidableEq, Repr, Inhabited

structure Insert where
  table : ObjectName
  columns : List String
  /-- The inserted rows; a plain row list is a query whose body is `Body.values`. -/
  source : Option Query

/-- One `target = value` of an `UPDATE`. -/
structure Assignment where
  target : String
  value : Expr

structure Update where
  table : FromItem
  assignments : List Assignment
  filter : Option Expr

structure Delete where
  fromItems : List FromItem
  filter : Option Expr

structure CreateTable where
  name : ObjectName
  columns : List ColumnDef
  constraints : List TableConstraint
  deriving DecidableEq, Repr, Inhabited

structure CreateIndex where
  name : Option String
  table : ObjectName
  columns : List String
  unique : Bool
  deriving DecidableEq, Repr, Inhabited

structure AlterTable where
  name : ObjectName
  operations : List AlterOperation
  deriving DecidableEq, Repr, Inhabited

structure DropIndex where
  names : List ObjectName
  table : Option ObjectName
  deriving DecidableEq, Repr, Inhabited

inductive Statement where
  | query (query : Query)
  | insert (change : Insert)
  | update (change : Update)
  | delete (change : Delete)
  | createTable (definition : CreateTable)
  | createIndex (definition : CreateIndex)
  | alterTable (change : AlterTable)
  | dropIndex (change : DropIndex)
  | other (text : String)

/-- The tag that reports print for the kind of a statement. -/
def Statement.kind : Statement → String
  | .query _ => "SELECT"
  | .insert _ => "INSERT"
  | .update _ => "UPDATE"
  | .delete _ => "DELETE"
  | .createTable _ => "CREATE TABLE"
  | .createIndex _ => "CREATE INDEX"
  | .alterTable _ => "ALTER TABLE"
  | .dropIndex _ => "DROP INDEX"
  | .other _ => "OTHER"

def TableConstraint.name : TableConstraint → Option String
  | .primaryKey name _ | .unique name _ | .index name _ | .foreignKey name _ _ _ | .check name _ =>
    name

def ColumnDef.isPrimaryKey (column : ColumnDef) : Bool :=
  column.options.any (· == .primaryKey)

/-- Some column or table constraint declares a primary key. -/
def CreateTable.hasPrimaryKey (definition : CreateTable) : Bool :=
  definition.columns.any ColumnDef.isPrimaryKey ||
    definition.constraints.any fun
      | .primaryKey _ _ => true
      | _ => false

/-- The number a paging expression denotes, when it is a literal that fits. -/
def Expr.countLiteral (e : Expr) : Option Nat :=
  match e.asLiteral with
  | some (.number digits) => Text.readCount digits
  | _ => none

namespace Query

/-- The literal row limit of the query level, if it has one. -/
def limitCount (q : Query) : Option Nat :=
  q.limit.bind Expr.countLiteral

/-- The literal row offset of the query level, if it has one. -/
def offsetCount (q : Query) : Option Nat :=
  q.offset.bind Expr.countLiteral

end Query

mutual

/-- The number of relations a FROM entry reads, through any depth of parenthesised joins. -/
def FromItem.tableCount : FromItem → Nat
  | ⟨relation, joins⟩ => relation.tableCount + Join.tableCountAll joins

def Join.tableCountAll : List Join → Nat
  | [] => 0
  | ⟨relation, _⟩ :: rest => relation.tableCount + Join.tableCountAll rest

/-- The number of relations a relation stands for: one, unless it is a parenthesised join. -/
def Relation.tableCount : Relation → Nat
  | .table _ _ | .derived _ _ | .function _ _ => 1
  | .nested item => item.tableCount

end

namespace Select

/-- The number of relations a SELECT block reads. -/
def tableCount (block : Select) : Nat :=
  total (block.fromItems.map FromItem.tableCount)

/-- The select list holds `*` or `name.*`. -/
def hasWildcard (block : Select) : Bool :=
  block.items.any fun
    | .all | .allOf _ => true
    | .expr _ _ => false

end Select

end SqlAudit
