import SqlAudit.Catalog.TypeName

/-! # Tables

What the catalog knows of a table: an estimated number of rows, its columns in order and its
indexes. Columns and indexes are found by name without regard to ASCII case.
-/

namespace SqlAudit

inductive IndexKind where
  | normal
  | unique
  | primaryKey
  | foreignKey
  deriving DecidableEq, Repr, Inhabited

structure Index where
  name : String
  columns : List String
  kind : IndexKind
  deriving DecidableEq, Repr, Inhabited

/-- A column; `typeName` is the base name of its declared type. -/
structure Column where
  name : String
  typeName : String
  nullable : Bool
  deriving DecidableEq, Repr, Inhabited

structure Table where
  name : String
  /-- The estimated number of rows, when there are statistics. -/
  rowCount : Option Nat
  columns : List Column
  indexes : List Index
  deriving DecidableEq, Repr, Inhabited

/-- A nullable column of a declared type. -/
def Column.declare (name declared : String) : Column :=
  { name, typeName := TypeName.normalize declared, nullable := true }

def Column.family (c : Column) : TypeName.Family :=
  TypeName.family c.typeName

def Index.covers (i : Index) (column : String) : Bool :=
  i.columns.any (Text.same · column)

namespace Table

/-- A table without statistics, columns and indexes. -/
def named (name : String) : Table :=
  { name, rowCount := none, columns := [], indexes := [] }

def column (t : Table) (name : String) : Option Column :=
  t.columns.find? (Text.same ·.name name)

def indexesOn (t : Table) (column : String) : List Index :=
  t.indexes.filter (·.covers column)

def isIndexed (t : Table) (column : String) : Bool :=
  !(t.indexesOn column).isEmpty

/-- Applies a change to the first column of that name, if there is one. -/
def updateColumn (t : Table) (name : String) (change : Column → Column) : Table :=
  { t with columns := go t.columns }
where
  go : List Column → List Column
    | [] => []
    | c :: rest => if Text.same c.name name then change c :: rest else c :: go rest

def addIndex (t : Table) (i : Index) : Table :=
  { t with indexes := t.indexes ++ [i] }

def removeIndexes (t : Table) (name : String) : Table :=
  { t with indexes := t.indexes.filter (!Text.same ·.name name) }

def removeColumns (t : Table) (name : String) : Table :=
  { t with columns := t.columns.filter (!Text.same ·.name name) }

end Table

end SqlAudit
