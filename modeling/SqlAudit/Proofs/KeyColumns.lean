import Mathlib.Data.List.Forall2
import SqlAudit.Proofs.DeclaredIndexes
import SqlAudit.Proofs.DroppedIndexes

/-! # Columns of primary keys

A primary key is declared by an option of a column, by a constraint of a table definition or by an
`ALTER TABLE`. The option also records the column as not nullable; the constraint does not. Table
constraints never reach the columns: a script records the same columns, nullable or not, if all its
constraints are left out. So the columns of a primary key are not nullable exactly if each of them
is declared so by itself.
-/

namespace SqlAudit

/-! ## Columns that keys list -/

namespace Table

/-- A primary key of the table lists the column name. -/
def IsKeyColumn (t : Table) (name : String) : Prop :=
  ∃ i ∈ t.indexes, i.kind = .primaryKey ∧ i.covers name = true

/-- Every column that a primary key of the table lists is recorded as not nullable. -/
def KeysNotNull (t : Table) : Prop :=
  ∀ column ∈ t.columns, t.IsKeyColumn column.name → column.nullable = false

instance (t : Table) (name : String) : Decidable (t.IsKeyColumn name) :=
  inferInstanceAs (Decidable (∃ i ∈ t.indexes, i.kind = .primaryKey ∧ i.covers name = true))

instance (t : Table) : Decidable t.KeysNotNull :=
  inferInstanceAs (Decidable (∀ column ∈ t.columns, t.IsKeyColumn column.name →
    column.nullable = false))

end Table

theorem Index.covers_iff {i : Index} {name : String} :
    i.covers name = true ↔ ∃ listed ∈ i.columns, Text.lower listed = Text.lower name := by
  simp [Index.covers, Text.same]

/-- The column that a definition records. -/
def ColumnDef.column (d : ColumnDef) : Column :=
  { Column.declare d.name d.typeName with nullable := !d.options.any (·.forbidsNull) }

/-- A column forbids nulls if its own options do. -/
theorem ColumnDef.column_nullable_eq_false_iff {d : ColumnDef} :
    d.column.nullable = false ↔ ColumnOption.notNull ∈ d.options ∨
      ColumnOption.primaryKey ∈ d.options := by
  rw [column, Bool.not_eq_false', List.any_eq_true]
  constructor
  · rintro ⟨option, hoption, hforbids⟩
    cases option with
    | notNull => exact Or.inl hoption
    | primaryKey => exact Or.inr hoption
    | _ => cases hforbids
  · rintro (hoption | hoption) <;> exact ⟨_, hoption, rfl⟩

namespace AlterOperation

/-- The operation adds a primary key that lists the column name. -/
def AddsKeyOn (name : String) : AlterOperation → Prop
  | .addColumn d => d.isPrimaryKey = true ∧ Text.lower d.name = Text.lower name
  | .addConstraint (.primaryKey _ columns) =>
      ∃ listed ∈ columns, Text.lower listed = Text.lower name
  | _ => False

/-- The columns that come with the operation. -/
def addedColumns : AlterOperation → List Column
  | .addColumn d => [d.column]
  | _ => []

end AlterOperation

namespace Table

theorem columns_addConstraint (t : Table) (k : TableConstraint) :
    (t.addConstraint k).columns = t.columns := by
  unfold addConstraint
  split <;> rfl

/-- An addition adds its columns behind the others. -/
theorem columns_alter (t : Table) {op : AlterOperation} (hop : op.IsAddition) :
    (t.alter op).columns = t.columns ++ op.addedColumns := by
  rcases hop with ⟨d, rfl⟩ | ⟨k, rfl⟩
  · rfl
  · simp [alter, columns_addConstraint, AlterOperation.addedColumns]

theorem isKeyColumn_addColumn (t : Table) (d : ColumnDef) (name : String) :
    (t.addColumn d).IsKeyColumn name ↔ t.IsKeyColumn name ∨
      (AlterOperation.addColumn d).AddsKeyOn name := by
  have hoptions : (∃ i ∈ d.options.filterMap (·.index? t.name d.name),
      i.kind = .primaryKey ∧ i.covers name = true) ↔
        d.isPrimaryKey = true ∧ Text.lower d.name = Text.lower name := by
    rw [ColumnDef.isPrimaryKey, List.any_eq_true]
    constructor
    · rintro ⟨i, hi, hkind, hcovers⟩
      obtain ⟨option, hoption, hindex⟩ := List.mem_filterMap.mp hi
      cases option with
      | primaryKey =>
          cases hindex
          exact ⟨⟨_, hoption, rfl⟩, by simpa [Index.covers_iff] using hcovers⟩
      | unique => cases hindex; cases hkind
      | foreignKey => cases hindex; cases hkind
      | _ => cases hindex
    · rintro ⟨⟨option, hoption, hkey⟩, hname⟩
      obtain rfl := beq_iff_eq.mp hkey
      exact ⟨_, List.mem_filterMap.mpr ⟨_, hoption, rfl⟩, rfl,
        by simpa [Index.covers_iff] using hname⟩
  simp only [IsKeyColumn, addColumn, List.mem_append, or_and_right, exists_or, hoptions,
    AlterOperation.AddsKeyOn]

theorem isKeyColumn_addConstraint (t : Table) (k : TableConstraint) (name : String) :
    (t.addConstraint k).IsKeyColumn name ↔
      t.IsKeyColumn name ∨ (AlterOperation.addConstraint k).AddsKeyOn name := by
  cases k <;> simp [addConstraint, TableConstraint.index?, IsKeyColumn, addIndex,
    or_and_right, exists_or, AlterOperation.AddsKeyOn, Index.covers_iff]

/-- An addition adds its key columns to those that were there. -/
theorem isKeyColumn_alter (t : Table) {op : AlterOperation} (hop : op.IsAddition) (name : String) :
    (t.alter op).IsKeyColumn name ↔ t.IsKeyColumn name ∨ op.AddsKeyOn name := by
  rcases hop with ⟨d, rfl⟩ | ⟨k, rfl⟩
  · exact t.isKeyColumn_addColumn d name
  · exact t.isKeyColumn_addConstraint k name

/-- What additions make of the columns of a table and of the columns that its keys list. -/
theorem foldl_alter_additions (t : Table) {operations : List AlterOperation}
    (hops : ∀ op ∈ operations, op.IsAddition) :
    (operations.foldl alter t).columns =
      t.columns ++ operations.flatMap AlterOperation.addedColumns ∧
    ∀ name, (operations.foldl alter t).IsKeyColumn name ↔
      t.IsKeyColumn name ∨ ∃ op ∈ operations, op.AddsKeyOn name := by
  induction operations generalizing t with
  | nil => simp
  | cons op rest ih =>
      obtain ⟨hop, hrest⟩ := List.forall_mem_cons.mp hops
      obtain ⟨hcolumns, hkeys⟩ := ih (t.alter op) hrest
      constructor
      · rw [List.foldl_cons, hcolumns, t.columns_alter hop, List.flatMap_cons, List.append_assoc]
      · intro name
        rw [List.foldl_cons, hkeys, t.isKeyColumn_alter hop, List.exists_mem_cons_iff, or_assoc]

end Table

/-! ## Definitions -/

/-- Some primary key of the definition lists the column name. -/
def CreateTable.DeclaresKeyOn (d : CreateTable) (name : String) : Prop :=
  (∃ e ∈ d.columns, e.isPrimaryKey = true ∧ Text.lower e.name = Text.lower name) ∨
    ∃ key columns, TableConstraint.primaryKey key columns ∈ d.constraints ∧
      ∃ listed ∈ columns, Text.lower listed = Text.lower name

/-- Some addition makes a column a key column exactly if the definition declares it one. -/
theorem CreateTable.exists_mem_additions_addsKeyOn {d : CreateTable} {name : String} :
    (∃ op ∈ d.additions, op.AddsKeyOn name) ↔ d.DeclaresKeyOn name := by
  constructor
  · rintro ⟨op, hop, hkey⟩
    rcases List.mem_append.mp hop with hcolumn | hconstraint
    · obtain ⟨e, he, rfl⟩ := List.mem_map.mp hcolumn
      exact Or.inl ⟨e, he, hkey⟩
    · obtain ⟨k, hk, rfl⟩ := List.mem_map.mp hconstraint
      cases k with
      | primaryKey key columns => exact Or.inr ⟨key, columns, hk, hkey⟩
      | _ => exact hkey.elim
  · rintro (⟨e, he, hkey⟩ | ⟨key, columns, hk, hkey⟩)
    · exact ⟨.addColumn e, List.mem_append_left _ (List.mem_map_of_mem he), hkey⟩
    · exact ⟨.addConstraint (.primaryKey key columns),
        List.mem_append_right _ (List.mem_map_of_mem hk), hkey⟩

namespace Table

theorem columns_ofDefinition (d : CreateTable) :
    (ofDefinition d).columns = d.columns.map ColumnDef.column := by
  rw [ofDefinition_eq, (foldl_alter_additions _ d.isAddition_of_mem_additions).1,
    CreateTable.flatMap_additions]
  simp [named, AlterOperation.addedColumns, List.map_eq_flatMap]

/-- The key columns of a table are those that its definition declares. -/
theorem isKeyColumn_ofDefinition (d : CreateTable) (name : String) :
    (ofDefinition d).IsKeyColumn name ↔ d.DeclaresKeyOn name := by
  have hempty : ¬ (named d.name.base).IsKeyColumn name := by simp [IsKeyColumn, named]
  rw [ofDefinition_eq, (foldl_alter_additions _ d.isAddition_of_mem_additions).2,
    or_iff_right hempty, CreateTable.exists_mem_additions_addsKeyOn]

/-- The keys of a definition are on columns that are not nullable exactly if each column that a key
lists forbids nulls by an option of its own. -/
theorem ofDefinition_keysNotNull_iff (d : CreateTable) :
    (ofDefinition d).KeysNotNull ↔ ∀ e ∈ d.columns, d.DeclaresKeyOn e.name →
      ColumnOption.notNull ∈ e.options ∨ ColumnOption.primaryKey ∈ e.options := by
  simp only [KeysNotNull, columns_ofDefinition, List.forall_mem_map, isKeyColumn_ofDefinition,
    ColumnDef.column_nullable_eq_false_iff]
  rfl

/-- A primary key that is added leaves the columns as they are. -/
theorem addConstraint_keysNotNull_iff (t : Table) (key : Option String) (columns : List String) :
    (t.addConstraint (.primaryKey key columns)).KeysNotNull ↔
      t.KeysNotNull ∧ ∀ column ∈ t.columns,
        (∃ listed ∈ columns, Text.lower listed = Text.lower column.name) →
        column.nullable = false := by
  simp only [KeysNotNull, columns_addConstraint, isKeyColumn_addConstraint,
    AlterOperation.AddsKeyOn]
  constructor
  · intro hall
    exact ⟨fun column hcolumn hkey => hall column hcolumn (Or.inl hkey),
      fun column hcolumn hlisted => hall column hcolumn (Or.inr hlisted)⟩
  · rintro ⟨hold, hnew⟩ column hcolumn (hkey | hlisted)
    · exact hold column hcolumn hkey
    · exact hnew column hcolumn hlisted

end Table

/-! ## Scripts without constraints -/

def AlterOperation.isConstraint : AlterOperation → Bool
  | .addConstraint _ => true
  | _ => false

/-- The statement with its table constraints left out. -/
def Statement.withoutConstraints : Statement → Statement
  | .createTable d => .createTable { d with constraints := [] }
  | .alterTable a => .alterTable { a with operations := a.operations.filter (!·.isConstraint) }
  | s => s

namespace Table

variable {t t' : Table}

theorem columns_alter_congr (hcolumns : t.columns = t'.columns) (op : AlterOperation) :
    (t.alter op).columns = (t'.alter op).columns := by
  cases op with
  | addConstraint k => simp only [alter, columns_addConstraint, hcolumns]
  | _ => simp only [alter, addColumn, removeColumns, updateColumn, removeIndexes, hcolumns]

/-- Constraints can be left out if only the columns matter. -/
theorem columns_foldl_alter_congr (hcolumns : t.columns = t'.columns)
    (operations : List AlterOperation) :
    (operations.foldl alter t).columns =
      ((operations.filter (!·.isConstraint)).foldl alter t').columns := by
  induction operations generalizing t t' with
  | nil => exact hcolumns
  | cons op rest ih =>
      cases hop : op.isConstraint with
      | false =>
          rw [List.filter_cons_of_pos (by simp [hop]), List.foldl_cons, List.foldl_cons]
          exact ih (columns_alter_congr hcolumns op)
      | true =>
          -- Only the left run takes this operation, and it does not touch the columns.
          have hkept : (t.alter op).columns = t'.columns := by
            cases op with
            | addConstraint k => exact (t.columns_addConstraint k).trans hcolumns
            | _ => cases hop
          rw [List.filter_cons_of_neg (by simp [hop]), List.foldl_cons]
          exact ih hkept

end Table

namespace Catalog

/-- The catalogs have the same keys in the same order and under each key the same columns. -/
def SameColumns (c c' : Catalog) : Prop :=
  List.Forall₂ (fun entry entry' => entry.1 = entry'.1 ∧ entry.2.columns = entry'.2.columns)
    c.entries c'.entries

namespace SameColumns

variable {c c' : Catalog}

theorem find? (hc : c.SameColumns c') (name : String) :
    (c.find? name).map Table.columns = (c'.find? name).map Table.columns := by
  unfold SameColumns at hc
  unfold Catalog.find?
  generalize c.entries = entries, c'.entries = entries' at hc ⊢
  induction hc with
  | nil => rfl
  | @cons entry entry' rest rest' hentry _ ih =>
      rw [lookup_cons_eq, lookup_cons_eq, hentry.1]
      split
      next => exact congrArg some hentry.2
      next => exact ih

theorem insert (hc : c.SameColumns c') {t t' : Table} (hname : t.name = t'.name)
    (hcolumns : t.columns = t'.columns) : (c.insert t).SameColumns (c'.insert t') := by
  unfold SameColumns at *
  simp only [Catalog.insert, hname]
  generalize c.entries = entries, c'.entries = entries' at hc ⊢
  induction hc with
  | nil => exact .cons ⟨rfl, hcolumns⟩ .nil
  | @cons entry entry' rest rest' hentry hrest ih =>
      unfold put
      rw [hentry.1]
      split
      next => exact .cons ⟨rfl, hcolumns⟩ hrest
      next => exact .cons hentry ih

theorem modify (hc : c.SameColumns c') (name : String) {change change' : Table → Table}
    (hchange : ∀ t t', t.columns = t'.columns → (change t).columns = (change' t').columns) :
    (c.modify name change).SameColumns (c'.modify name change') := by
  unfold SameColumns Catalog.modify reviseAt at *
  refine List.forall₂_map_left_iff.mpr (List.forall₂_map_right_iff.mpr (hc.imp ?_))
  intro entry entry' hentry
  rw [hentry.1]
  split
  next => exact ⟨rfl, hchange _ _ hentry.2⟩
  next => exact hentry

/-- One statement keeps the columns the same if its constraints are left out. -/
theorem apply (hc : c.SameColumns c') (s : Statement) :
    (c.apply s).SameColumns (c'.apply s.withoutConstraints) := by
  cases s with
  | createTable d =>
      -- The columns of a definition are read from its column list alone.
      refine hc.insert ?_ ?_
      · rw [Table.ofDefinition_name, Table.ofDefinition_name]
      · rw [Table.columns_ofDefinition, Table.columns_ofDefinition]
  | createIndex d =>
      simp only [Statement.withoutConstraints, Catalog.apply]
      exact hc.modify d.table.base fun _ _ hcolumns => hcolumns
  | alterTable a =>
      simp only [Statement.withoutConstraints, Catalog.apply]
      exact hc.modify a.name.base fun _ _ hcolumns =>
        Table.columns_foldl_alter_congr hcolumns a.operations
  | dropIndex d =>
      cases htable : d.table with
      | none => simpa only [Statement.withoutConstraints, Catalog.apply, htable] using hc
      | some target =>
          have hdrop (t : Table) :
              (d.names.foldl (fun t n => t.removeIndexes n.base) t).columns = t.columns := by
            rw [Table.foldl_removeIndexes]
            rfl
          simp only [Statement.withoutConstraints, Catalog.apply, htable]
          refine hc.modify target.base fun t t' hcolumns => ?_
          rw [hdrop, hdrop, hcolumns]
  | _ => exact hc

/-- The run of `apply` over a script. Its constraints can be left out. -/
theorem foldl_apply (hc : c.SameColumns c') (script : List Statement) :
    (script.foldl Catalog.apply c).SameColumns
      ((script.map Statement.withoutConstraints).foldl Catalog.apply c') := by
  induction script generalizing c c' with
  | nil => exact hc
  | cons s rest ih => exact ih (hc.apply s)

end SameColumns

theorem ofStatements_concat (script : List Statement) (s : Statement) :
    ofStatements (script ++ [s]) = (ofStatements script).apply s :=
  List.foldl_concat ..

/-- What a script records of the columns does not depend on its table constraints. So after a
`CREATE TABLE` the columns of the primary keys are recorded as not nullable exactly if each column
that a key lists is itself declared `NOT NULL` or `PRIMARY KEY`. After an `ALTER TABLE` that ends
with `ADD PRIMARY KEY` they are so exactly if they were so before this last operation and the listed
columns were not nullable already. -/
theorem keys_notNull_iff_declared (script : List Statement) :
    (∀ name, ((ofStatements script).find? name).map Table.columns =
      ((ofStatements (script.map Statement.withoutConstraints)).find? name).map Table.columns) ∧
    (∀ d : CreateTable, ∃ t,
      (ofStatements (script ++ [Statement.createTable d])).find? d.name.base = some t ∧
      (t.KeysNotNull ↔ ∀ e ∈ d.columns, d.DeclaresKeyOn e.name →
        ColumnOption.notNull ∈ e.options ∨ ColumnOption.primaryKey ∈ e.options)) ∧
    ∀ (table : ObjectName) (before : List AlterOperation) (key : Option String)
      (columns : List String) (t : Table),
      (ofStatements (script ++ [Statement.alterTable ⟨table, before⟩])).find? table.base = some t →
      ∃ t', (ofStatements (script ++ [Statement.alterTable
          ⟨table, before ++ [AlterOperation.addConstraint (.primaryKey key columns)]⟩])).find?
            table.base = some t' ∧
        t'.columns = t.columns ∧
        (t'.KeysNotNull ↔ t.KeysNotNull ∧ ∀ column ∈ t.columns,
          (∃ listed ∈ columns, Text.lower listed = Text.lower column.name) →
            column.nullable = false) := by
  refine ⟨?_, ?_, ?_⟩
  · have hempty : empty.SameColumns empty := .nil
    exact (hempty.foldl_apply script).find?
  · intro d
    refine ⟨Table.ofDefinition d, ?_, Table.ofDefinition_keysNotNull_iff d⟩
    rw [ofStatements_concat, apply, find?_insert, Table.ofDefinition_name, if_pos rfl]
  · intro table before key columns t hfind
    rw [ofStatements_concat, apply, find?_modify, if_pos rfl] at hfind
    obtain ⟨stored, hstored, rfl⟩ := Option.map_eq_some_iff.mp hfind
    refine ⟨_, ?_, Table.columns_addConstraint _ _,
      Table.addConstraint_keysNotNull_iff _ key columns⟩
    rw [ofStatements_concat, apply, find?_modify, if_pos rfl, hstored, Option.map_some,
      List.foldl_concat]
    rfl

/-- `CREATE TABLE items (id INT NOT NULL, name TEXT)`. -/
def itemsScript : List Statement :=
  [.createTable ⟨⟨["items"]⟩, [⟨"id", "INT", [.notNull]⟩, ⟨"name", "TEXT", []⟩], []⟩]

/-- `ALTER TABLE Items ADD COLUMN code INT NOT NULL`. -/
def addCode : AlterTable :=
  ⟨⟨["Items"]⟩, [.addColumn ⟨"code", "INT", [.notNull]⟩]⟩

/-- `ALTER TABLE Items ADD COLUMN code INT NOT NULL, ADD PRIMARY KEY (ID, code)`. -/
def addCodeAndKey : AlterTable :=
  ⟨⟨["Items"]⟩, addCode.operations ++ [.addConstraint (.primaryKey none ["ID", "code"])]⟩

/-- The added key lists columns that are declared `NOT NULL`, so it is on columns that are not
nullable. -/
theorem keys_notNull_iff_declared_items :
    (ofStatements (itemsScript ++ [Statement.alterTable addCode])).find? "Items" =
      some ⟨"items", none, [⟨"id", "INT", false⟩, ⟨"name", "TEXT", true⟩, ⟨"code", "INT", false⟩],
        []⟩ ∧
    ∃ t, (ofStatements (itemsScript ++ [Statement.alterTable addCodeAndKey])).find? "Items" =
      some t ∧
      t.columns = [⟨"id", "INT", false⟩, ⟨"name", "TEXT", true⟩, ⟨"code", "INT", false⟩] ∧
        t.KeysNotNull := by
  have hfind : (ofStatements (itemsScript ++ [Statement.alterTable addCode])).find? "Items" =
      some ⟨"items", none, [⟨"id", "INT", false⟩, ⟨"name", "TEXT", true⟩, ⟨"code", "INT", false⟩],
        []⟩ := by
    decide +kernel
  obtain ⟨-, -, halter⟩ := keys_notNull_iff_declared itemsScript
  obtain ⟨t, hadded, hcolumns, hkeys⟩ :=
    halter ⟨["Items"]⟩ addCode.operations none ["ID", "code"] _ hfind
  exact ⟨hfind, t, hadded, hcolumns, hkeys.mpr ⟨by decide +kernel, by decide +kernel⟩⟩

/-- `CREATE TABLE t (a INT, PRIMARY KEY (a))` records the column of the key as nullable, and so does
adding the key to the table afterwards. -/
theorem key_column_recorded_nullable :
    (∃ t, (ofStatements [.createTable
        ⟨⟨["t"]⟩, [⟨"a", "INT", []⟩], [.primaryKey none ["a"]]⟩]).find? "t" =
      some t ∧ ¬ t.KeysNotNull) ∧
    ∃ t, (ofStatements [.createTable ⟨⟨["t"]⟩, [⟨"a", "INT", []⟩], []⟩,
        .alterTable ⟨⟨["t"]⟩, [.addConstraint (.primaryKey none ["a"])]⟩]).find? "t" =
      some t ∧ ¬ t.KeysNotNull := by
  have hkey : ¬ Table.KeysNotNull ⟨"t", none, [⟨"a", "INT", true⟩],
      [⟨"PRIMARY", ["a"], .primaryKey⟩]⟩ := by
    decide +kernel
  exact ⟨⟨_, by decide +kernel, hkey⟩, _, by decide +kernel, hkey⟩

end Catalog

end SqlAudit
