import SqlAudit.Proofs.FindingCounts
import SqlAudit.Proofs.SchemaPieces

/-! # Declared indexes

The rules on table design read the options and constraints of a definition, and so does the catalog
when it builds the table. Both agree on primary and foreign keys. On secondary indexes they may
differ: the catalog has an index for every `UNIQUE` of a column, while the rule on their number
counts a column once however often it is marked `UNIQUE`.

A definition is a sequence of additions to an empty table, so what holds of the columns and
constraints that an `ALTER TABLE` adds holds of a definition as well.
-/

namespace SqlAudit

/-! ## Kinds of declared indexes -/

/-- The kind of index that a column option declares. -/
def ColumnOption.indexKind : ColumnOption → Option IndexKind
  | .primaryKey => some .primaryKey
  | .unique => some .unique
  | .foreignKey _ _ => some .foreignKey
  | .null | .notNull | .default _ | .other _ => none

/-- The kind of index that a table constraint declares. -/
def TableConstraint.indexKind : TableConstraint → Option IndexKind
  | .primaryKey _ _ => some .primaryKey
  | .unique _ _ => some .unique
  | .index _ _ => some .normal
  | .foreignKey _ _ _ _ => some .foreignKey
  | .check _ _ => none

/-- The index that an option makes is of the kind that the option declares. -/
theorem ColumnOption.map_kind_index? (table column : String) (option : ColumnOption) :
    (option.index? table column).map Index.kind = option.indexKind := by
  cases option <;> rfl

theorem TableConstraint.map_kind_index? (table : String) (constraint : TableConstraint) :
    (constraint.index? table).map Index.kind = constraint.indexKind := by
  cases constraint <;> rfl

/-- The kinds of the indexes of a table, in order. -/
def Table.indexKinds (t : Table) : List IndexKind :=
  t.indexes.map Index.kind

namespace AlterOperation

/-- The operation adds a column or a constraint. -/
def IsAddition (op : AlterOperation) : Prop :=
  (∃ d, op = .addColumn d) ∨ ∃ k, op = .addConstraint k

/-- The kinds of the indexes that come with an added column or constraint. -/
def addedKinds : AlterOperation → List IndexKind
  | .addColumn d => d.options.filterMap ColumnOption.indexKind
  | .addConstraint k => k.indexKind.toList
  | _ => []

end AlterOperation

namespace Table

/-- An addition puts its indexes behind those of the table. -/
theorem indexKinds_alter (t : Table) {op : AlterOperation} (hop : op.IsAddition) :
    (t.alter op).indexKinds = t.indexKinds ++ op.addedKinds := by
  rcases hop with ⟨d, rfl⟩ | ⟨k, rfl⟩
  · simp only [alter, addColumn, indexKinds, AlterOperation.addedKinds, List.map_append,
      List.map_filterMap, ColumnOption.map_kind_index?]
  · simp only [alter, addConstraint, AlterOperation.addedKinds, ← k.map_kind_index? t.name]
    cases k.index? t.name with
    | none => simp
    | some i => simp [indexKinds, addIndex]

/-- The run of `alter` over operations that only add. -/
theorem indexKinds_foldl_alter (t : Table) {operations : List AlterOperation}
    (hops : ∀ op ∈ operations, op.IsAddition) :
    (operations.foldl alter t).indexKinds =
      t.indexKinds ++ operations.flatMap AlterOperation.addedKinds := by
  induction operations generalizing t with
  | nil => simp
  | cons op rest ih =>
      obtain ⟨hop, hrest⟩ := List.forall_mem_cons.mp hops
      rw [List.foldl_cons, ih _ hrest, t.indexKinds_alter hop, List.flatMap_cons, List.append_assoc]

end Table

/-! ## Definitions as additions -/

/-- The additions to an empty table that a definition stands for. -/
def CreateTable.additions (d : CreateTable) : List AlterOperation :=
  d.columns.map .addColumn ++ d.constraints.map .addConstraint

theorem CreateTable.isAddition_of_mem_additions (d : CreateTable) :
    ∀ op ∈ d.additions, op.IsAddition := by
  intro op hop
  rcases List.mem_append.mp hop with hcolumn | hconstraint
  · obtain ⟨column, -, rfl⟩ := List.mem_map.mp hcolumn
    exact Or.inl ⟨column, rfl⟩
  · obtain ⟨constraint, -, rfl⟩ := List.mem_map.mp hconstraint
    exact Or.inr ⟨constraint, rfl⟩

/-- The additions of a definition are its columns, then its constraints. -/
theorem CreateTable.flatMap_additions {α : Type} (d : CreateTable) (f : AlterOperation → List α) :
    d.additions.flatMap f =
      d.columns.flatMap (fun column => f (.addColumn column)) ++
        d.constraints.flatMap fun constraint => f (.addConstraint constraint) := by
  rw [CreateTable.additions, List.flatMap_append, List.flatMap_map, List.flatMap_map]

/-- A definition builds its table by additions to an empty one. -/
theorem Table.ofDefinition_eq (d : CreateTable) :
    ofDefinition d = d.additions.foldl alter (named d.name.base) :=
  ofDefinition_append d.name [] d.columns d.constraints

/-- The kinds of indexes in a table are those that its definition declares. -/
theorem Table.indexKinds_ofDefinition (d : CreateTable) :
    (ofDefinition d).indexKinds = d.additions.flatMap AlterOperation.addedKinds := by
  rw [ofDefinition_eq, indexKinds_foldl_alter _ d.isAddition_of_mem_additions]
  rfl

/-! ## Primary keys -/

/-- A definition has a primary key exactly if its table has an index of this kind. -/
theorem Table.primaryKey_mem_indexKinds_ofDefinition (d : CreateTable) :
    .primaryKey ∈ (ofDefinition d).indexKinds ↔ d.hasPrimaryKey = true := by
  have hoption (option : ColumnOption) :
      option.indexKind = some .primaryKey ↔ (option == .primaryKey) = true := by
    cases option <;> simp [ColumnOption.indexKind]
  have hkey : d.hasPrimaryKey = (d.columns.any ColumnDef.isPrimaryKey ||
      d.constraints.any fun constraint => constraint.indexKind == some .primaryKey) := by
    rw [CreateTable.hasPrimaryKey]
    congr 2
    funext constraint
    cases constraint <;> rfl
  simp only [indexKinds_ofDefinition, CreateTable.flatMap_additions,
    AlterOperation.addedKinds, hkey, List.mem_append, List.mem_flatMap, List.mem_filterMap,
    Option.mem_toList, hoption, ColumnDef.isPrimaryKey, Bool.or_eq_true,
    List.any_eq_true, beq_iff_eq]

/-! ## Foreign keys -/

/-- An addition is reported once for each foreign key that comes with it. -/
theorem Rules.length_operationForeignKeys (table : String) (op : AlterOperation) :
    (operationForeignKeys table op).length = op.addedKinds.count .foreignKey := by
  cases op with
  | addColumn d =>
      rw [operationForeignKeys, columnForeignKeys, AlterOperation.addedKinds,
        List.length_filterMap_eq_countP, List.count, List.countP_filterMap]
      refine List.countP_congr fun option _ => ?_
      cases option <;> simp [ColumnOption.indexKind]
  | addConstraint k => cases k <;> rfl
  | _ => rfl

theorem Rules.length_flatMap_operationForeignKeys (table : String)
    (operations : List AlterOperation) :
    (operations.flatMap (operationForeignKeys table)).length =
      (operations.flatMap AlterOperation.addedKinds).count .foreignKey := by
  rw [List.length_flatMap, List.count_flatMap]
  exact congrArg List.sum (List.map_congr_left fun op _ => length_operationForeignKeys table op)

/-! ## Secondary indexes -/

/-- The index is neither a primary nor a foreign key. -/
def IndexKind.isSecondary (kind : IndexKind) : Bool :=
  kind == .normal || kind == .unique

/-- How often a column is marked `UNIQUE`. -/
def ColumnDef.uniqueMarks (column : ColumnDef) : Nat :=
  column.options.count .unique

/-- The constraint declares a secondary index. -/
def TableConstraint.isSecondary (constraint : TableConstraint) : Bool :=
  constraint.indexKind.any IndexKind.isSecondary

/-- The rule counts a column once, however often it is declared unique. -/
theorem Rules.secondaryIndexCount_eq (d : CreateTable) :
    secondaryIndexCount d = d.constraints.countP TableConstraint.isSecondary +
      d.columns.countP (·.options.contains .unique) := by
  rw [secondaryIndexCount]
  congr 2
  funext constraint
  cases constraint <;> rfl

/-- The catalog has a secondary index for each constraint that declares one and for each `UNIQUE` of
a column. -/
theorem Table.countP_isSecondary_ofDefinition (d : CreateTable) :
    (ofDefinition d).indexKinds.countP IndexKind.isSecondary =
      d.constraints.countP TableConstraint.isSecondary +
        (d.columns.map ColumnDef.uniqueMarks).sum := by
  have hcolumn (column : ColumnDef) :
      (column.options.filterMap ColumnOption.indexKind).countP IndexKind.isSecondary =
        column.uniqueMarks := by
    rw [ColumnDef.uniqueMarks, List.countP_filterMap, List.count]
    refine List.countP_congr fun option _ => ?_
    cases option <;> simp [ColumnOption.indexKind, IndexKind.isSecondary]
  have hconstraints : (d.constraints.flatMap fun constraint => constraint.indexKind.toList).countP
      IndexKind.isSecondary = d.constraints.countP TableConstraint.isSecondary := by
    rw [← List.filterMap_eq_flatMap_toList, List.countP_filterMap]
    refine List.countP_congr fun constraint _ => ?_
    cases constraint <;> rfl
  rw [indexKinds_ofDefinition, CreateTable.flatMap_additions, List.countP_append, Nat.add_comm]
  simp only [AlterOperation.addedKinds, hconstraints, List.countP_flatMap,
    Function.comp_def, hcolumn]

/-- Counting the columns that are marked `UNIQUE` gives at most the number of marks. -/
theorem countP_contains_unique_le (columns : List ColumnDef) :
    columns.countP (·.options.contains .unique) ≤ (columns.map ColumnDef.uniqueMarks).sum ∧
      (columns.countP (·.options.contains .unique) = (columns.map ColumnDef.uniqueMarks).sum ↔
        ∀ column ∈ columns, column.uniqueMarks ≤ 1) := by
  induction columns with
  | nil => simp
  | cons column rest ih =>
      obtain ⟨hle, heq⟩ := ih
      have hmarked : column.options.contains .unique = true ↔ 0 < column.uniqueMarks := by
        rw [List.contains_iff_mem, ColumnDef.uniqueMarks, List.count_pos_iff]
      rw [List.countP_cons, List.map_cons, List.sum_cons, List.forall_mem_cons, ← heq]
      -- A marked column adds one to the count of columns and at least one to the number of marks.
      split
      next hcontains =>
        have hpos := hmarked.mp hcontains
        omega
      next hcontains =>
        have hzero : column.uniqueMarks = 0 :=
          Nat.eq_zero_of_not_pos fun hpos => hcontains (hmarked.mpr hpos)
        omega

/-! ## Numbers of findings -/

namespace Rules

variable (catalog : Catalog) (settings : Settings)

/-- A definition is reported exactly if its table has no primary index. -/
theorem count_missingPrimaryKey (d : CreateTable) :
    missingPrimaryKey.count ⟨.createTable d, catalog, settings⟩ =
      if .primaryKey ∈ (Table.ofDefinition d).indexKinds then 0 else 1 := by
  rw [missingPrimaryKey, Rule.count_ofDetails, List.length_map]
  simp only [definedTable, Option.toList_some, List.filter_singleton,
    Table.primaryKey_mem_indexKinds_ofDefinition]
  cases d.hasPrimaryKey <;> rfl

/-- A definition is reported exactly if it asks for too many indexes. -/
theorem count_tooManyIndexes (d : CreateTable) :
    tooManyIndexes.count ⟨.createTable d, catalog, settings⟩ =
      if secondaryIndexCount d > settings.thresholds.maxTableIndexes then 1 else 0 := by
  rw [tooManyIndexes, Rule.count_ofDetails, List.length_map]
  simp only [definedTable, Option.toList_some, List.filter_singleton, Bool.cond_decide]
  split <;> rfl

/-- The foreign keys of a definition are reported like those of its additions. -/
theorem count_avoidForeignKey_createTable (d : CreateTable) :
    avoidForeignKey.count ⟨.createTable d, catalog, settings⟩ =
      (Table.ofDefinition d).indexKinds.count .foreignKey := by
  have hadditions : d.columns.flatMap (columnForeignKeys d.name.toText) ++
      d.constraints.filterMap (constraintForeignKey d.name.toText) =
        d.additions.flatMap (operationForeignKeys d.name.toText) := by
    rw [CreateTable.flatMap_additions]
    simp only [operationForeignKeys, List.filterMap_eq_flatMap_toList]
  rw [avoidForeignKey, Rule.count_ofDetails]
  dsimp only
  rw [hadditions, length_flatMap_operationForeignKeys, Table.indexKinds_ofDefinition]

/-- There is one finding for every foreign key that the operations add. -/
theorem count_avoidForeignKey_alterTable (change : AlterTable) :
    avoidForeignKey.count ⟨.alterTable change, catalog, settings⟩ =
      (change.operations.flatMap AlterOperation.addedKinds).count .foreignKey := by
  rw [avoidForeignKey, Rule.count_ofDetails]
  dsimp only
  rw [length_flatMap_operationForeignKeys]

end Rules

/-- The rules on table design and the catalog agree on the indexes that a statement declares.

For a definition and the table that the catalog builds from it: the rule on missing primary keys has
one finding if the table has no index of this kind, and none otherwise; the rule on foreign keys has
one finding for each index of this kind; the rule on the number of indexes has a finding if its
count exceeds the threshold, and this count is at most the number of normal and unique indexes of
the table, with equality exactly if no column is marked `UNIQUE` more than once.

For an `ALTER TABLE` that only adds columns and constraints to a known table, the rule on foreign
keys has one finding for each index of this kind that the table gains. -/
theorem designRules_agree_with_catalog (catalog : Catalog) (settings : Settings) :
    (∀ d : CreateTable,
      (∃ found, Rules.missingPrimaryKey.evaluate ⟨.createTable d, catalog, settings⟩ = some found ∧
        found.length =
          if ∀ i ∈ (Table.ofDefinition d).indexes, i.kind ≠ .primaryKey then 1 else 0) ∧
      (∃ found, Rules.avoidForeignKey.evaluate ⟨.createTable d, catalog, settings⟩ = some found ∧
        found.length = (Table.ofDefinition d).indexes.countP (·.kind == .foreignKey)) ∧
      (∃ found, Rules.tooManyIndexes.evaluate ⟨.createTable d, catalog, settings⟩ = some found ∧
        found.length =
          if Rules.secondaryIndexCount d > settings.thresholds.maxTableIndexes then 1 else 0) ∧
      Rules.secondaryIndexCount d ≤
        (Table.ofDefinition d).indexes.countP (fun i => i.kind == .normal || i.kind == .unique) ∧
      (Rules.secondaryIndexCount d =
          (Table.ofDefinition d).indexes.countP (fun i => i.kind == .normal || i.kind == .unique) ↔
        ∀ column ∈ d.columns, column.options.count .unique ≤ 1)) ∧
    ∀ (name : ObjectName) (operations : List AlterOperation) (t : Table),
      (∀ op ∈ operations, (∃ d, op = .addColumn d) ∨ ∃ k, op = .addConstraint k) →
      catalog.find? name.base = some t →
      ∃ found t',
        Rules.avoidForeignKey.evaluate ⟨.alterTable ⟨name, operations⟩, catalog, settings⟩ =
          some found ∧
        (catalog.apply (.alterTable ⟨name, operations⟩)).find? name.base = some t' ∧
        t'.indexes.countP (·.kind == .foreignKey) =
          t.indexes.countP (·.kind == .foreignKey) + found.length ∧
        ∀ other, Text.lower other ≠ Text.lower name.base →
          (catalog.apply (.alterTable ⟨name, operations⟩)).find? other = catalog.find? other := by
  have hcount (t : Table) (p : IndexKind → Bool) :
      t.indexes.countP (fun i => p i.kind) = t.indexKinds.countP p := List.countP_map.symm
  have hforeign (t : Table) : t.indexes.countP (·.kind == .foreignKey) =
      t.indexKinds.count .foreignKey :=
    hcount t (· == .foreignKey)
  refine ⟨fun d => ⟨?_, ?_, ?_, ?_⟩, fun name operations t hops hfind => ?_⟩
  · obtain ⟨found, hfound, hlength⟩ := builtin_finds ⟨.createTable d, catalog, settings⟩
      Rules.missingPrimaryKey (by simp [Rules.builtin])
    refine ⟨found, hfound, ?_⟩
    rw [hlength, Rules.count_missingPrimaryKey, ← ite_not]
    simp [Table.indexKinds]
  · obtain ⟨found, hfound, hlength⟩ := builtin_finds ⟨.createTable d, catalog, settings⟩
      Rules.avoidForeignKey (by simp [Rules.builtin])
    exact ⟨found, hfound, by rw [hlength, Rules.count_avoidForeignKey_createTable, hforeign]⟩
  · obtain ⟨found, hfound, hlength⟩ := builtin_finds ⟨.createTable d, catalog, settings⟩
      Rules.tooManyIndexes (by simp [Rules.builtin])
    exact ⟨found, hfound, by rw [hlength, Rules.count_tooManyIndexes]⟩
  · -- Constraints are counted alike on both sides, so all depends on the columns.
    have hsecondary :
        (Table.ofDefinition d).indexes.countP (fun i => i.kind == .normal || i.kind == .unique) =
          (Table.ofDefinition d).indexKinds.countP IndexKind.isSecondary :=
      hcount _ IndexKind.isSecondary
    obtain ⟨hle, heq⟩ := countP_contains_unique_le d.columns
    rw [hsecondary, Table.countP_isSecondary_ofDefinition, Rules.secondaryIndexCount_eq,
      Nat.add_left_cancel_iff]
    exact ⟨Nat.add_le_add_left hle _, heq⟩
  · obtain ⟨found, hfound, hlength⟩ :=
      builtin_finds ⟨.alterTable ⟨name, operations⟩, catalog, settings⟩
      Rules.avoidForeignKey (by simp [Rules.builtin])
    refine ⟨found, operations.foldl Table.alter t, hfound, ?_, ?_, fun other hother => ?_⟩
    · rw [Catalog.apply, Catalog.find?_modify, if_pos rfl, hfind]
      rfl
    · rw [hforeign, hforeign, t.indexKinds_foldl_alter hops, List.count_append, hlength,
        Rules.count_avoidForeignKey_alterTable]
    · rw [Catalog.apply, Catalog.find?_modify, if_neg hother]

/-- `CREATE TABLE items (code INT UNIQUE UNIQUE)`. -/
def twiceUniqueItems : CreateTable :=
  ⟨⟨["items"]⟩, [⟨"code", "INT", [.unique, .unique]⟩], []⟩

/-- `ADD COLUMN maker INT UNIQUE REFERENCES users (id),
ADD FOREIGN KEY (code) REFERENCES codes (id)`. -/
def addedReferences : List AlterOperation :=
  [.addColumn ⟨"maker", "INT", [.unique, .foreignKey ⟨["users"]⟩ ["id"]]⟩,
    .addConstraint (.foreignKey none ["code"] ⟨["codes"]⟩ ["id"])]

/-- One column is counted for two unique indexes of the table, which has no foreign key until two
are added. -/
theorem designRules_agree_with_catalog_items :
    ((∀ op ∈ addedReferences, (∃ d, op = .addColumn d) ∨ ∃ k, op = .addConstraint k) ∧
      (Catalog.empty.apply (.createTable twiceUniqueItems)).find? "items" =
        some (Table.ofDefinition twiceUniqueItems)) ∧
    (Rules.secondaryIndexCount twiceUniqueItems = 1 ∧
      Rules.secondaryIndexCount twiceUniqueItems ≠
        (Table.ofDefinition twiceUniqueItems).indexes.countP
          (fun i => i.kind == .normal || i.kind == .unique)) ∧
    ∃ found t',
      Rules.avoidForeignKey.evaluate ⟨.alterTable ⟨⟨["items"]⟩, addedReferences⟩,
        Catalog.empty.apply (.createTable twiceUniqueItems), {}⟩ = some found ∧
      ((Catalog.empty.apply (.createTable twiceUniqueItems)).apply
        (.alterTable ⟨⟨["items"]⟩, addedReferences⟩)).find? "items" = some t' ∧
      t'.indexes.countP (·.kind == .foreignKey) = found.length ∧ found.length = 2 := by
  have hops : ∀ op ∈ addedReferences, (∃ d, op = .addColumn d) ∨ ∃ k, op = .addConstraint k := by
    simp [addedReferences]
  have hfind : (Catalog.empty.apply (.createTable twiceUniqueItems)).find? "items" =
      some (Table.ofDefinition twiceUniqueItems) := by decide +kernel
  obtain ⟨hdefinition, halter⟩ :=
    designRules_agree_with_catalog (Catalog.empty.apply (.createTable twiceUniqueItems)) {}
  obtain ⟨-, -, -, -, hequal⟩ := hdefinition twiceUniqueItems
  obtain ⟨found, t', hfound, hfind', hgained, -⟩ := halter ⟨["items"]⟩ addedReferences _ hops hfind
  have hnone :
      (Table.ofDefinition twiceUniqueItems).indexes.countP (·.kind == .foreignKey) = 0 := by
    decide
  rw [hnone, Nat.zero_add] at hgained
  have hmarks : ¬∀ column ∈ twiceUniqueItems.columns, column.options.count .unique ≤ 1 := by decide
  refine ⟨⟨hops, hfind⟩, ⟨by decide, fun h => hmarks (hequal.mp h)⟩, found, t', hfound, hfind',
    hgained, ?_⟩
  have hlength : found = [_, _] := Option.some.inj hfound.symm
  rw [hlength]
  rfl

end SqlAudit
