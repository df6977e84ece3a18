import SqlAudit.Catalog.Basic
import SqlAudit.Tree.Statement

/-! # Catalogs from schema statements

`Catalog.apply` carries out one schema statement: it declares tables, adds and drops their columns
and indexes, and ignores every statement that does not change the schema or that names an unknown
table.
-/

namespace SqlAudit

def primaryIndexName : String := "PRIMARY"

/-- The name of the index behind an unnamed foreign key. -/
def foreignIndexName (table : String) (columns : List String) : String :=
  "fk_" ++ table ++ "_" ++ Text.joinWith "_" columns

/-- The index that a column option declares on its own column. -/
def ColumnOption.index? (table column : String) : ColumnOption → Option Index
  | .primaryKey => some ⟨primaryIndexName, [column], .primaryKey⟩
  | .unique => some ⟨column, [column], .unique⟩
  | .foreignKey _ _ => some ⟨foreignIndexName table [column], [column], .foreignKey⟩
  | .null | .notNull | .default _ | .other _ => none

def ColumnOption.forbidsNull : ColumnOption → Bool
  | .notNull | .primaryKey => true
  | _ => false

/-- The index that a table constraint declares. A primary key has its fixed name; any other
constraint without a name takes one from its columns. -/
def TableConstraint.index? (table : String) : TableConstraint → Option Index
  | .primaryKey _ columns => some ⟨primaryIndexName, columns, .primaryKey⟩
  | .unique name columns => some ⟨name.getD (columns.head?.getD ""), columns, .unique⟩
  | .index name columns => some ⟨name.getD (columns.head?.getD ""), columns, .normal⟩
  | .foreignKey name columns _ _ =>
    some ⟨name.getD (foreignIndexName table columns), columns, .foreignKey⟩
  | .check _ _ => none

namespace Table

/-- Adds a declared column and the indexes of its options. -/
def addColumn (t : Table) (d : ColumnDef) : Table :=
  { t with
    columns := t.columns ++
      [{ Column.declare d.name d.typeName with nullable := !d.options.any (·.forbidsNull) }]
    indexes := t.indexes ++ d.options.filterMap (·.index? t.name d.name) }

/-- Adds the index of a table constraint, if it declares one. -/
def addConstraint (t : Table) (k : TableConstraint) : Table :=
  match k.index? t.name with
  | some i => t.addIndex i
  | none => t

def ofDefinition (d : CreateTable) : Table :=
  d.constraints.foldl addConstraint (d.columns.foldl addColumn (named d.name.base))

def alter (t : Table) : AlterOperation → Table
  | .addColumn d => t.addColumn d
  | .dropColumn name => t.removeColumns name
  | .modifyColumn name declared =>
    t.updateColumn name fun c => { c with typeName := TypeName.normalize declared }
  | .changeColumn oldName newName declared =>
    t.updateColumn oldName fun c =>
      { c with name := newName, typeName := TypeName.normalize declared }
  | .renameColumn oldName newName => t.updateColumn oldName fun c => { c with name := newName }
  | .addConstraint k => t.addConstraint k
  | .dropConstraint name | .dropIndex name => t.removeIndexes name
  | .other _ => t

end Table

/-- The index a `CREATE INDEX` declares; without a name it takes that of its first column. -/
def CreateIndex.index (d : CreateIndex) : Index :=
  ⟨d.name.getD (d.columns.head?.getD ""), d.columns, if d.unique then .unique else .normal⟩

namespace Catalog

def apply (c : Catalog) : Statement → Catalog
  | .createTable d => c.insert (Table.ofDefinition d)
  | .createIndex d => c.modify d.table.base (·.addIndex d.index)
  | .alterTable a => c.modify a.name.base (a.operations.foldl Table.alter ·)
  | .dropIndex d =>
    match d.table with
    | some target => c.modify target.base (d.names.foldl (fun t n => t.removeIndexes n.base) ·)
    | none => c
  | .query _ | .insert _ | .update _ | .delete _ | .other _ => c

/-- The catalog that a schema script builds from nothing. -/
def ofStatements (script : List Statement) : Catalog :=
  script.foldl apply empty

end Catalog

end SqlAudit
