import SqlAudit.Catalog.Definition

/-! # Columns that indexes list

The columns and the indexes of a table are two lists that only names tie together. An `ALTER TABLE`
that drops or renames a column leaves the indexes as they are, so an index may go on listing a name
that no column has. This is the only way to get there: as long as no operation takes a listed name
away from the columns, every index lists columns of its own table.
-/

namespace SqlAudit

/-! ## Names of columns -/

namespace Table

/-- The table has a column of that name in some case. -/
def HasColumn (t : Table) (name : String) : Prop :=
  ∃ c ∈ t.columns, Text.lower c.name = Text.lower name

/-- Every column that an index of the table lists is a column of the table. -/
def IndexesOwnColumns (t : Table) : Prop :=
  ∀ i ∈ t.indexes, ∀ listed ∈ i.columns, t.HasColumn listed

instance (t : Table) (name : String) : Decidable (t.HasColumn name) :=
  inferInstanceAs (Decidable (∃ c ∈ t.columns, Text.lower c.name = Text.lower name))

instance (t : Table) : Decidable t.IndexesOwnColumns :=
  inferInstanceAs (Decidable (∀ i ∈ t.indexes, ∀ listed ∈ i.columns, t.HasColumn listed))

theorem isIndexed_iff {t : Table} {name : String} :
    t.isIndexed name = true ↔
      ∃ i ∈ t.indexes, ∃ listed ∈ i.columns, Text.lower listed = Text.lower name := by
  simp [isIndexed, indexesOn, Index.covers, Text.same]

/-- Columns are compared in any case. -/
theorem isIndexed_congr {t : Table} {name other : String}
    (hsame : Text.lower name = Text.lower other) :
    t.isIndexed name = t.isIndexed other := by
  rw [Bool.eq_iff_iff, isIndexed_iff, isIndexed_iff, hsame]

theorem hasColumn_congr {t : Table} {name other : String}
    (hsame : Text.lower name = Text.lower other) :
    t.HasColumn name ↔ t.HasColumn other := by
  rw [HasColumn, HasColumn, hsame]

/-- The invariant, by names instead of indexes. -/
theorem indexesOwnColumns_iff {t : Table} :
    t.IndexesOwnColumns ↔ ∀ name, t.isIndexed name = true → t.HasColumn name := by
  constructor
  · intro ht name hindexed
    obtain ⟨i, hi, listed, hlisted, hsame⟩ := isIndexed_iff.mp hindexed
    exact (hasColumn_congr hsame).mp (ht i hi listed hlisted)
  · intro ht i hi listed hlisted
    exact ht listed (isIndexed_iff.mpr ⟨i, hi, listed, hlisted, rfl⟩)

/-! ## Changes of one column -/

/-- A column is gone if it had the name, in any case. -/
theorem hasColumn_removeColumns {t : Table} {name other : String} :
    (t.removeColumns name).HasColumn other ↔
      t.HasColumn other ∧ Text.lower other ≠ Text.lower name := by
  simp only [HasColumn, removeColumns, List.mem_filter, Text.same, Bool.not_eq_true',
    beq_eq_false_iff_ne]
  constructor
  · rintro ⟨c, ⟨hc, hkept⟩, hname⟩
    exact ⟨⟨c, hc, hname⟩, hname ▸ hkept⟩
  · rintro ⟨⟨c, hc, hname⟩, hkept⟩
    exact ⟨c, ⟨hc, hname.symm ▸ hkept⟩, hname⟩

/-- The first column of that name is changed, or there is none and nothing happens. -/
theorem updateColumn_go_cases (name : String) (change : Column → Column) (columns : List Column) :
    ((∀ c ∈ columns, Text.lower c.name ≠ Text.lower name) ∧
      updateColumn.go name change columns = columns) ∨
    ∃ before c after, columns = before ++ c :: after ∧
      (∀ other ∈ before, Text.lower other.name ≠ Text.lower name) ∧
      Text.lower c.name = Text.lower name ∧
      updateColumn.go name change columns = before ++ change c :: after := by
  induction columns with
  | nil => exact Or.inl ⟨by simp, rfl⟩
  | cons first rest ih =>
      unfold updateColumn.go
      by_cases hfirst : Text.lower first.name = Text.lower name
      · refine Or.inr ⟨[], first, rest, rfl, by simp, hfirst, ?_⟩
        simp [Text.same, hfirst]
      · have hsame : Text.same first.name name = false := by simpa [Text.same] using hfirst
        simp only [hsame, Bool.false_eq_true, if_false]
        rcases ih with ⟨hnone, hgo⟩ | ⟨before, c, after, rfl, hbefore, hc, hgo⟩
        · exact Or.inl ⟨List.forall_mem_cons.mpr ⟨hfirst, hnone⟩, by rw [hgo]⟩
        · exact Or.inr ⟨first :: before, c, after, rfl,
            List.forall_mem_cons.mpr ⟨hfirst, hbefore⟩, hc, by rw [hgo, List.cons_append]⟩

/-- A change of the column of a name finds no such column and does nothing, or changes the first
one. -/
theorem updateColumn_cases (t : Table) (name : String) (change : Column → Column) :
    (¬ t.HasColumn name ∧ (t.updateColumn name change).columns = t.columns) ∨
    ∃ before c after, t.columns = before ++ c :: after ∧
      (∀ other ∈ before, Text.lower other.name ≠ Text.lower name) ∧
      Text.lower c.name = Text.lower name ∧
      (t.updateColumn name change).columns = before ++ change c :: after := by
  rcases updateColumn_go_cases name change t.columns with ⟨hnone, hgo⟩ | hfirst
  · exact Or.inl ⟨fun ⟨c, hc, hname⟩ => hnone c hc hname, hgo⟩
  · exact Or.inr hfirst

theorem hasColumn_updateColumn_of_ne {t : Table} {name other : String} (change : Column → Column)
    (hother : Text.lower other ≠ Text.lower name) (hcolumn : t.HasColumn other) :
    (t.updateColumn name change).HasColumn other := by
  obtain ⟨found, hfound, hname⟩ := hcolumn
  refine ⟨found, ?_, hname⟩
  rcases updateColumn_cases t name change with
    ⟨-, hcolumns⟩ | ⟨before, c, after, hold, -, hc, hcolumns⟩
  · rwa [hcolumns]
  · rw [hcolumns]
    rw [hold, List.mem_append, List.mem_cons] at hfound
    rcases hfound with hbefore | rfl | hafter
    · exact List.mem_append_left _ hbefore
    · exact absurd (hname.symm.trans hc) hother
    · exact List.mem_append_right _ (List.mem_cons_of_mem _ hafter)

/-- How many columns have that name in some case. -/
def columnCount (t : Table) (name : String) : Nat :=
  t.columns.countP (Text.same ·.name name)

/-- A renamed column leaves a column of its old name if the new name is the same in some case, or if
there is a second column of the old name. -/
theorem hasColumn_updateColumn_self {t : Table} {name newName : String} {change : Column → Column}
    (hchange : ∀ c, Text.lower c.name = Text.lower name →
      Text.lower (change c).name = Text.lower newName)
    (hcolumn : t.HasColumn name) :
    (t.updateColumn name change).HasColumn name ↔
      Text.lower newName = Text.lower name ∨ 1 < t.columnCount name := by
  rcases updateColumn_cases t name change with
    ⟨hnone, -⟩ | ⟨before, c, after, hold, hbefore, hc, hcolumns⟩
  · exact absurd hcolumn hnone
  · -- The first column of the name is the one that changes, so a second one stands after it.
    have hcount : t.columnCount name = after.countP (Text.same ·.name name) + 1 := by
      have hzero : before.countP (Text.same ·.name name) = 0 := by
        simpa [List.countP_eq_zero, Text.same] using hbefore
      rw [columnCount, hold, List.countP_append, hzero, List.countP_cons]
      simp [Text.same, hc]
    rw [hcount, Nat.lt_add_left_iff_pos, List.countP_pos_iff]
    simp only [HasColumn, hcolumns, List.mem_append, List.mem_cons, Text.same, beq_iff_eq]
    constructor
    · rintro ⟨found, hfound | rfl | hfound, hname⟩
      · exact absurd hname (hbefore found hfound)
      · exact Or.inl ((hchange c hc).symm.trans hname)
      · exact Or.inr ⟨found, hfound, hname⟩
    · rintro (hname | ⟨found, hfound, hname⟩)
      · exact ⟨change c, Or.inr (Or.inl rfl), (hchange c hc).trans hname⟩
      · exact ⟨found, Or.inr (Or.inr hfound), hname⟩

end Table

/-! ## One operation -/

/-- The operation takes away from the columns of the table a name that an index lists: it drops the
columns of the name, or gives another name to the only one. -/
def AlterOperation.Detaches (t : Table) : AlterOperation → Prop
  | .dropColumn name => t.isIndexed name
  | .changeColumn oldName newName _ | .renameColumn oldName newName =>
    t.isIndexed oldName ∧ Text.lower newName ≠ Text.lower oldName ∧ t.columnCount oldName ≤ 1
  | .addColumn _ | .modifyColumn _ _ | .addConstraint _ | .dropConstraint _ | .dropIndex _
  | .other _ => False

instance (t : Table) : (op : AlterOperation) → Decidable (op.Detaches t)
  | .dropColumn name => inferInstanceAs (Decidable (t.isIndexed name = true))
  | .changeColumn oldName newName _ | .renameColumn oldName newName =>
    inferInstanceAs
      (Decidable (t.isIndexed oldName = true ∧ Text.lower newName ≠ Text.lower oldName ∧
      t.columnCount oldName ≤ 1))
  | .addColumn _ | .modifyColumn _ _ | .addConstraint _ | .dropConstraint _ | .dropIndex _
  | .other _ =>
    inferInstanceAs (Decidable False)

/-- The index of a column option lists the column of the option. -/
theorem ColumnOption.index?_columns {table column : String} {option : ColumnOption} {i : Index}
    (hindex : option.index? table column = some i) : i.columns = [column] := by
  cases option <;> cases hindex <;> rfl

namespace Table

variable {t : Table}

theorem IndexesOwnColumns.addColumn (ht : t.IndexesOwnColumns) (d : ColumnDef) :
    (t.addColumn d).IndexesOwnColumns := by
  intro i hi listed hlisted
  rcases List.mem_append.mp hi with hold | hnew
  · obtain ⟨c, hc, hname⟩ := ht i hold listed hlisted
    exact ⟨c, List.mem_append_left _ hc, hname⟩
  · obtain ⟨option, -, hindex⟩ := List.mem_filterMap.mp hnew
    rw [ColumnOption.index?_columns hindex, List.mem_singleton] at hlisted
    exact ⟨_, List.mem_append_right _ (List.mem_singleton_self _), by rw [hlisted]; rfl⟩

theorem IndexesOwnColumns.removeIndexes (ht : t.IndexesOwnColumns) (name : String) :
    (t.removeIndexes name).IndexesOwnColumns :=
  fun i hi => ht i (List.mem_filter.mp hi).1

/-- Dropping a column breaks the invariant exactly if an index lists it. -/
theorem removeColumns_indexesOwnColumns_iff (ht : t.IndexesOwnColumns) (name : String) :
    (t.removeColumns name).IndexesOwnColumns ↔ ¬ t.isIndexed name = true := by
  rw [indexesOwnColumns_iff] at *
  have hindexed (other : String) : (t.removeColumns name).isIndexed other = t.isIndexed other := rfl
  simp only [hindexed, hasColumn_removeColumns]
  constructor
  · intro hkept hname
    exact (hkept name hname).2 rfl
  · intro hname other hother
    exact ⟨ht other hother, fun hsame => hname (isIndexed_congr hsame ▸ hother)⟩

/-- Renaming breaks the invariant exactly if an index lists the old name and no other column bears
it. -/
theorem updateColumn_indexesOwnColumns_iff (ht : t.IndexesOwnColumns) {name newName : String}
    {change : Column → Column}
    (hchange : ∀ c, Text.lower c.name = Text.lower name →
      Text.lower (change c).name = Text.lower newName) :
    (t.updateColumn name change).IndexesOwnColumns ↔
      ¬ (t.isIndexed name = true ∧ Text.lower newName ≠ Text.lower name ∧
        t.columnCount name ≤ 1) := by
  rw [indexesOwnColumns_iff] at *
  have hindexed (other : String) :
      (t.updateColumn name change).isIndexed other = t.isIndexed other := rfl
  simp only [hindexed]
  constructor
  · rintro hkept ⟨hname, hrenamed, hcount⟩
    rcases (hasColumn_updateColumn_self hchange (ht name hname)).mp (hkept name hname) with
      hsame | hsecond
    · exact hrenamed hsame
    · omega
  · intro hname other hother
    by_cases hsame : Text.lower other = Text.lower name
    · rw [isIndexed_congr hsame] at hother
      rw [hasColumn_congr hsame, hasColumn_updateColumn_self hchange (ht name hother)]
      by_cases hrenamed : Text.lower newName = Text.lower name
      · exact Or.inl hrenamed
      · exact Or.inr (Nat.lt_of_not_le fun hcount => hname ⟨hother, hrenamed, hcount⟩)
    · exact hasColumn_updateColumn_of_ne change hsame (ht other hother)

/-- An operation that adds no constraint keeps the indexes on columns of the table exactly if it
does not take away a listed name. -/
theorem alter_indexesOwnColumns_iff (ht : t.IndexesOwnColumns) {op : AlterOperation}
    (hop : ∀ k, op ≠ .addConstraint k) : (t.alter op).IndexesOwnColumns ↔ ¬ op.Detaches t := by
  cases op with
  | addColumn d => exact iff_of_true (ht.addColumn d) not_false
  | dropColumn name => exact removeColumns_indexesOwnColumns_iff ht name
  | modifyColumn name declared =>
      have hname (c : Column) (hc : Text.lower c.name = Text.lower name) :
          Text.lower { c with typeName := TypeName.normalize declared }.name = Text.lower name := hc
      refine iff_of_true ?_ not_false
      exact (updateColumn_indexesOwnColumns_iff ht hname).mpr fun hlost => hlost.2.1 rfl
  | changeColumn oldName newName declared =>
      exact updateColumn_indexesOwnColumns_iff ht fun _ _ => rfl
  | renameColumn oldName newName => exact updateColumn_indexesOwnColumns_iff ht fun _ _ => rfl
  | addConstraint k => exact absurd rfl (hop k)
  | dropConstraint name => exact iff_of_true (ht.removeIndexes name) not_false
  | dropIndex name => exact iff_of_true (ht.removeIndexes name) not_false
  | other text => exact iff_of_true ht not_false

/-! ## Runs of operations -/

theorem foldl_take_succ {operations : List AlterOperation} {n : Nat} {op : AlterOperation}
    (hop : operations[n]? = some op) (t : Table) :
    (operations.take (n + 1)).foldl alter t = ((operations.take n).foldl alter t).alter op := by
  rw [List.take_add_one, hop, Option.toList_some, List.foldl_append, List.foldl_cons,
    List.foldl_nil]

/-- The indexes stay on columns of the table all along exactly if no operation takes away a listed
name from the table as it is when the operation is carried out. -/
theorem foldl_alter_indexesOwnColumns_iff (ht : t.IndexesOwnColumns)
    {operations : List AlterOperation} (hops : ∀ op ∈ operations, ∀ k, op ≠ .addConstraint k) :
    (∀ n, ((operations.take n).foldl alter t).IndexesOwnColumns) ↔
      ∀ (n : Nat) (op : AlterOperation), operations[n]? = some op →
        ¬ op.Detaches ((operations.take n).foldl alter t) := by
  have hstep {n : Nat} {op : AlterOperation} (hop : operations[n]? = some op)
      (hn : ((operations.take n).foldl alter t).IndexesOwnColumns) :
      ((operations.take (n + 1)).foldl alter t).IndexesOwnColumns ↔
        ¬ op.Detaches ((operations.take n).foldl alter t) := by
    rw [foldl_take_succ hop]
    exact alter_indexesOwnColumns_iff hn (hops op (List.mem_of_getElem? hop))
  constructor
  · intro hall n op hop
    exact (hstep hop (hall n)).mp (hall (n + 1))
  · intro hkept n
    induction n with
    | zero => exact ht
    | succ n ih =>
        cases hop : operations[n]? with
        | some op => exact (hstep hop ih).mpr (hkept n op hop)
        | none => rwa [List.take_add_one, hop, Option.toList_none, List.append_nil]

end Table

/-! ## Catalogs -/

/-- Every index of every table lists columns of its own table. -/
def Catalog.IndexesOwnColumns (c : Catalog) : Prop :=
  ∀ t ∈ c.tables, t.IndexesOwnColumns

instance (c : Catalog) : Decidable c.IndexesOwnColumns :=
  inferInstanceAs (Decidable (∀ t ∈ c.tables, t.IndexesOwnColumns))

/-- A change of the tables under a key leaves the other tables, so only the changed ones matter. -/
theorem Catalog.modify_indexesOwnColumns_iff {c : Catalog} (hc : c.IndexesOwnColumns)
    (name : String) (change : Table → Table) :
    (c.modify name change).IndexesOwnColumns ↔
      ∀ t, (Text.lower name, t) ∈ c.entries → (change t).IndexesOwnColumns := by
  unfold IndexesOwnColumns tables modify reviseAt at *
  simp only [List.map_map, List.forall_mem_map] at *
  constructor
  · intro hall t hentry
    have hchanged := hall _ hentry
    rwa [Function.comp_apply, if_pos rfl] at hchanged
  · intro hchanged entry hentry
    rw [Function.comp_apply]
    split
    next hkey => exact hchanged entry.2 (hkey ▸ hentry)
    next => exact hc entry hentry

/-- Take a catalog whose indexes list columns of their own tables, and an `ALTER TABLE` that adds no
constraint. After any number of its operations the indexes still do so, exactly if no operation
drops or renames away a column name that an index lists at that time. An operation that does takes
the name from the columns only and leaves it in the index. -/
theorem Catalog.alterTable_indexesOwnColumns_iff (c : Catalog) (hc : c.IndexesOwnColumns)
    (name : ObjectName) (operations : List AlterOperation)
    (hops : ∀ op ∈ operations, ∀ k, op ≠ .addConstraint k) :
    ((∀ n, (c.apply (.alterTable ⟨name, operations.take n⟩)).IndexesOwnColumns) ↔
      ∀ t, (Text.lower name.base, t) ∈ c.entries →
        ∀ (n : Nat) (op : AlterOperation), operations[n]? = some op →
          ¬ op.Detaches ((operations.take n).foldl Table.alter t)) ∧
    ∀ (t : Table) (op : AlterOperation), op.Detaches t → (t.alter op).indexes = t.indexes := by
  constructor
  · have htables (n : Nat) : (c.apply (.alterTable ⟨name, operations.take n⟩)).IndexesOwnColumns ↔
        ∀ t, (Text.lower name.base, t) ∈ c.entries →
          ((operations.take n).foldl Table.alter t).IndexesOwnColumns :=
      modify_indexesOwnColumns_iff hc name.base _
    have hrun (t : Table) (hentry : (Text.lower name.base, t) ∈ c.entries) :=
      Table.foldl_alter_indexesOwnColumns_iff (hc t (List.mem_map.mpr ⟨_, hentry, rfl⟩)) hops
    simp only [htables]
    constructor
    · intro hall t hentry
      exact (hrun t hentry).mp fun n => hall n t hentry
    · intro hkept n t hentry
      exact (hrun t hentry).mpr (hkept t hentry) n
  · intro t op hdetaches
    cases op with
    | dropColumn _ | changeColumn _ _ _ | renameColumn _ _ => rfl
    | _ => exact hdetaches.elim

/-- `CREATE TABLE t (a INT, b INT)` and `CREATE INDEX i ON t (a)`. -/
def indexedTable : Catalog :=
  .ofStatements [.createTable ⟨⟨["t"]⟩, [⟨"a", "INT", []⟩, ⟨"b", "INT", []⟩], []⟩,
    .createIndex ⟨some "i", ⟨["t"]⟩, ["a"], false⟩]

/-- Dropping a column without an index, changing the case of the indexed one, adding a unique column
and dropping the index before its column. -/
def harmlessOperations : List AlterOperation :=
  [.dropColumn "B", .renameColumn "a" "A", .addColumn ⟨"c", "TEXT", [.unique]⟩, .dropIndex "I",
    .dropColumn "a"]

/-- Operations that take no listed name away keep the indexes on columns of the table. -/
theorem Catalog.alterTable_indexesOwnColumns_iff_harmless :
    indexedTable.IndexesOwnColumns ∧
    (∀ op ∈ harmlessOperations, ∀ k, op ≠ .addConstraint k) ∧
    ∀ n, (indexedTable.apply
      (.alterTable ⟨⟨["T"]⟩, harmlessOperations.take n⟩)).IndexesOwnColumns := by
  have hc : indexedTable.IndexesOwnColumns := by decide +kernel
  have hops : ∀ op ∈ harmlessOperations, ∀ k, op ≠ .addConstraint k := by
    simp [harmlessOperations]
  refine ⟨hc, hops, (alterTable_indexesOwnColumns_iff indexedTable hc ⟨["T"]⟩ _ hops).1.mpr ?_⟩
  intro t hentry n op hop
  have hentries : indexedTable.entries =
      [("t", ⟨"t", none, [⟨"a", "INT", true⟩, ⟨"b", "INT", true⟩], [⟨"i", ["a"], .normal⟩]⟩)] := by
    decide +kernel
  rw [hentries, List.mem_singleton] at hentry
  obtain ⟨-, rfl⟩ := Prod.mk.inj hentry
  have hn : n < 5 := (List.getElem?_eq_some_iff.mp hop).1
  obtain rfl | rfl | rfl | rfl | rfl : n = 0 ∨ n = 1 ∨ n = 2 ∨ n = 3 ∨ n = 4 := by omega
  all_goals
    cases hop
    decide +kernel

/-- Renaming the indexed column, or dropping it, leaves its old name in the index and in no column.
-/
theorem Catalog.index_lists_missing_column :
    indexedTable.IndexesOwnColumns ∧
    ¬ (indexedTable.apply (.alterTable ⟨⟨["t"]⟩, [.renameColumn "a" "x"]⟩)).IndexesOwnColumns ∧
    ((indexedTable.apply (.alterTable ⟨⟨["t"]⟩, [.renameColumn "a" "x"]⟩)).find? "t").map
      (fun t => (t.isIndexed "x", t.isIndexed "a")) = some (false, true) ∧
    ¬ (indexedTable.apply (.alterTable ⟨⟨["t"]⟩, [.dropColumn "a"]⟩)).IndexesOwnColumns := by
  decide +kernel

end SqlAudit
