import SqlAudit.Proofs.CatalogKeys
import SqlAudit.Proofs.Outcomes
import SqlAudit.Script

/-! # Schemas in one piece and in several

A table can be defined at once, or with some of its columns first and the rest added by an
`ALTER TABLE`; an `ALTER TABLE` can be cut in two; an index can be created by a statement of its own
or as a constraint. The catalog does not tell these ways of writing a schema apart.
-/

namespace SqlAudit

/-! ## Changes one after the other -/

namespace Catalog

/-- Changing a table twice is changing it once by both changes. -/
theorem modify_modify (c : Catalog) (name : String) (first second : Table → Table) :
    (c.modify name first).modify name second = c.modify name fun t => second (first t) := by
  refine Catalog.ext ?_
  simp only [modify, reviseAt, List.map_map]
  refine List.map_congr_left fun entry _ => ?_
  by_cases hkey : entry.1 = Text.lower name
  · simp [hkey]
  · simp [hkey]

theorem lookup_reviseAt (key : String) (change : Table → Table) (entries : List (String × Table))
    (k : String) :
    (reviseAt key change entries).lookup k =
      if k = key then (entries.lookup k).map change else entries.lookup k := by
  unfold reviseAt
  induction entries with
  | nil => simp
  | cons entry rest ih =>
      rw [List.map_cons, lookup_cons_eq, ih, lookup_cons_eq]
      by_cases hkey : entry.1 = key
      · rw [if_pos hkey]
        by_cases hfirst : k = entry.1
        · simp [hfirst, hkey]
        · simp [hfirst]
      · rw [if_neg hkey]
        by_cases hfirst : k = entry.1
        · simp [hfirst, hkey]
        · simp [hfirst]

/-- A change of the table of a name is seen under this name and under no other. -/
theorem find?_modify (c : Catalog) (name : String) (change : Table → Table) (n : String) :
    (c.modify name change).find? n =
      if Text.lower n = Text.lower name then (c.find? n).map change else c.find? n :=
  lookup_reviseAt (Text.lower name) change c.entries (Text.lower n)

/-- Changing an entry that has just been put is putting the changed one. -/
theorem reviseAt_put {entries : List (String × Table)} (hkeys : (entries.map Prod.fst).Nodup)
    (key : String) (t : Table) (change : Table → Table) :
    reviseAt key change (put key t entries) = put key (change t) entries := by
  unfold reviseAt
  induction entries with
  | nil => simp [put]
  | cons entry rest ih =>
      obtain ⟨hfirst, hrest⟩ := List.nodup_cons.mp hkeys
      unfold put
      split
      next hkey =>
        -- The changed entry is the only one under the key, so the rest stays.
        have hothers : ∀ other ∈ rest, other.1 ≠ key := by
          intro other hother heq
          exact hfirst (List.mem_map.mpr ⟨other, hother, heq.trans hkey.symm⟩)
        rw [List.map_cons, if_pos rfl,
          List.map_congr_left fun other hother => if_neg (hothers other hother), List.map_id']
      next hkey => rw [List.map_cons, if_neg hkey, ih hrest]

/-- Changing the table that was just inserted is inserting the changed table. -/
theorem modify_insert (c : Catalog) (t : Table) (change : Table → Table)
    (hname : (change t).name = t.name) :
    (c.insert t).modify t.name change = c.insert (change t) := by
  refine Catalog.ext ?_
  have hput := reviseAt_put c.keys_nodup (Text.lower t.name) t change
  rw [← hname] at hput
  simpa [modify, insert, hname] using hput

end Catalog

/-! ## Columns, constraints and indexes -/

namespace Table

theorem foldl_alter_name (t : Table) (operations : List AlterOperation) :
    (operations.foldl alter t).name = t.name :=
  foldl_keeps Table.name alter alter_name t operations

theorem ofDefinition_name (d : CreateTable) : (ofDefinition d).name = d.name.base := by
  have hcolumn (t : Table) (column : ColumnDef) : (t.addColumn column).name = t.name := rfl
  rw [ofDefinition, foldl_keeps Table.name addConstraint addConstraint_name,
    foldl_keeps Table.name addColumn hcolumn]
  rfl

/-- A definition declares what its first columns declare, with the other columns and the constraints
added. -/
theorem ofDefinition_append (name : ObjectName) (first rest : List ColumnDef)
    (constraints : List TableConstraint) :
    ofDefinition ⟨name, first ++ rest, constraints⟩ =
      (rest.map AlterOperation.addColumn ++ constraints.map AlterOperation.addConstraint).foldl
        alter
        (ofDefinition ⟨name, first, []⟩) := by
  rw [List.foldl_append, List.foldl_map, List.foldl_map]
  unfold ofDefinition
  rw [List.foldl_append]
  rfl

end Table

/-- The table constraint that declares the index of a `CREATE INDEX`. -/
def CreateIndex.constraint (d : CreateIndex) : TableConstraint :=
  if d.unique then .unique d.name d.columns else .index d.name d.columns

/-- Creating an index is adding a constraint that makes it. -/
theorem Table.addConstraint_constraint (t : Table) (d : CreateIndex) :
    t.addConstraint d.constraint = t.addIndex d.index := by
  unfold CreateIndex.constraint CreateIndex.index
  cases d.unique <;> rfl

/-! ## Tables of a script -/

/-- The table is what some operations make of an empty table of its name. -/
def Table.IsBuilt (t : Table) : Prop :=
  ∃ operations : List AlterOperation, t = operations.foldl alter (named t.name)

namespace Table.IsBuilt

theorem ofDefinition (d : CreateTable) : (Table.ofDefinition d).IsBuilt := by
  refine ⟨d.columns.map .addColumn ++ d.constraints.map .addConstraint, ?_⟩
  rw [ofDefinition_name]
  exact ofDefinition_append d.name [] d.columns d.constraints

/-- The run of one operation after the other on a built table. -/
theorem foldl_alter {t : Table} (ht : t.IsBuilt) (operations : List AlterOperation) :
    (operations.foldl alter t).IsBuilt := by
  obtain ⟨before, hbefore⟩ := ht
  refine ⟨before ++ operations, ?_⟩
  rw [foldl_alter_name, List.foldl_append, ← hbefore]

end Table.IsBuilt

/-- Whatever a statement does to a table of the catalog, operations of an `ALTER TABLE` do as well.
-/
theorem Catalog.isBuilt_apply {c : Catalog} (hc : ∀ t ∈ c.tables, t.IsBuilt) (s : Statement) :
    ∀ t ∈ (c.apply s).tables, t.IsBuilt := by
  have hmodify (name : String) {change : Table → Table}
      (hchange : ∀ t, ∃ operations : List AlterOperation,
        change t = operations.foldl Table.alter t) :
      ∀ t ∈ (c.modify name change).tables, t.IsBuilt := by
    intro t ht
    obtain ⟨_, hentry, rfl⟩ := List.mem_map.mp ht
    obtain ⟨stored, hstored, rfl⟩ := List.mem_map.mp hentry
    have hbuilt : stored.2.IsBuilt := hc _ (List.mem_map_of_mem hstored)
    split
    next =>
      obtain ⟨operations, hoperations⟩ := hchange stored.2
      exact hoperations.symm ▸ hbuilt.foldl_alter operations
    next => exact hbuilt
  cases s with
  | createTable d =>
      intro t ht
      obtain ⟨entry, hentry, rfl⟩ := List.mem_map.mp ht
      rcases mem_put hentry with rfl | hold
      · exact .ofDefinition d
      · exact hc _ (List.mem_map_of_mem hold)
  | createIndex d =>
      rw [apply]
      exact hmodify _ fun t => ⟨[.addConstraint d.constraint], (t.addConstraint_constraint d).symm⟩
  | alterTable a =>
      rw [apply]
      exact hmodify _ fun _ => ⟨a.operations, rfl⟩
  | dropIndex d =>
      rw [apply]
      split
      next target _ =>
        refine hmodify _ fun t => ⟨d.names.map fun n => .dropIndex n.base, ?_⟩
        rw [List.foldl_map]
        rfl
      next => exact hc
  | _ => exact hc

/-- Every table of a script is what some operations make of an empty table. -/
theorem Catalog.isBuilt_ofStatements (script : List Statement) :
    ∀ t ∈ (ofStatements script).tables, t.IsBuilt := by
  have hrun (c : Catalog) (hc : ∀ t ∈ c.tables, t.IsBuilt) :
      ∀ t ∈ (script.foldl apply c).tables, t.IsBuilt := by
    induction script generalizing c with
    | nil => exact hc
    | cons s rest ih => exact ih _ (isBuilt_apply hc s)
  exact hrun empty (by simp [tables, empty])

/-- What a schema defines is the catalog of its statements. -/
theorem Schema.exists_ofStatements {d : Dialect} {text : String} {c : Catalog}
    (hc : Schema.catalog d text = .ok c) : ∃ script, c = .ofStatements script := by
  obtain ⟨script, -, hscript⟩ := exists_ok_of_bind hc
  cases hscript
  exact ⟨script, rfl⟩

/-! ## Statements -/

/-- A schema in one piece and in several gives the same catalog. A `CREATE TABLE` is the same as one
with the first columns only and an `ALTER TABLE` that adds the other columns and the constraints. An
`ALTER TABLE` is the same as one for the first and one for the other operations. A `CREATE INDEX` is
the same as adding the index as a constraint. -/
theorem Catalog.apply_in_pieces (c : Catalog) :
    (∀ (name : ObjectName) (first rest : List ColumnDef) (constraints : List TableConstraint),
      c.apply (.createTable ⟨name, first ++ rest, constraints⟩) =
        (c.apply (.createTable ⟨name, first, []⟩)).apply
          (.alterTable ⟨name, rest.map .addColumn ++ constraints.map .addConstraint⟩)) ∧
    (∀ (name : ObjectName) (first rest : List AlterOperation),
      c.apply (.alterTable ⟨name, first ++ rest⟩) =
        (c.apply (.alterTable ⟨name, first⟩)).apply (.alterTable ⟨name, rest⟩)) ∧
    ∀ (index : Option String) (table : ObjectName) (columns : List String) (unique : Bool),
      c.apply (.createIndex ⟨index, table, columns, unique⟩) =
        c.apply (.alterTable ⟨table,
          [.addConstraint (if unique then .unique index columns else .index index columns)]⟩) := by
  refine ⟨?_, ?_, ?_⟩
  · intro name first rest constraints
    let added : List AlterOperation := rest.map .addColumn ++ constraints.map .addConstraint
    have hinsert := modify_insert c (Table.ofDefinition ⟨name, first, []⟩)
      (added.foldl Table.alter ·) (Table.foldl_alter_name _ added)
    rw [Table.ofDefinition_name, ← Table.ofDefinition_append] at hinsert
    exact hinsert.symm
  · intro name first rest
    unfold apply
    dsimp only
    rw [modify_modify]
    simp only [List.foldl_append]
  · intro index table columns unique
    have hadd (t : Table) := t.addConstraint_constraint ⟨index, table, columns, unique⟩
    unfold apply
    dsimp only
    simp only [← hadd]
    rfl

/-- A catalog with the tables `users` and `orders`. -/
def usersAndOrders : Catalog :=
  (Catalog.empty.insert (.named "users")).insert (.named "orders")

/-- `id INT PRIMARY KEY`. -/
def idColumn : ColumnDef :=
  ⟨"id", "INT", [.primaryKey]⟩

/-- `owner INT REFERENCES owners (id)`. -/
def ownerColumn : ColumnDef :=
  ⟨"owner", "INT", [.foreignKey ⟨["owners"]⟩ ["id"]]⟩

/-- An unnamed foreign key and an unnamed index that begins with the column `owner`. -/
def ownerConstraints : List TableConstraint :=
  [.foreignKey none ["owner"] ⟨["owners"]⟩ ["id"], .index none ["owner", "id"]]

/-- A table `USERS` takes the place of `users`, whether it is defined at once or its column `owner`
and the constraints are added afterwards. -/
theorem Catalog.apply_in_pieces_users :
    usersAndOrders.apply
        (.createTable ⟨⟨["shop", "USERS"]⟩, [idColumn] ++ [ownerColumn], ownerConstraints⟩) =
      (usersAndOrders.apply (.createTable ⟨⟨["shop", "USERS"]⟩, [idColumn], []⟩)).apply
        (.alterTable ⟨⟨["shop", "USERS"]⟩,
          [ownerColumn].map .addColumn ++ ownerConstraints.map .addConstraint⟩) ∧
    (usersAndOrders.apply
        (.createTable ⟨⟨["shop", "USERS"]⟩, [idColumn] ++ [ownerColumn],
          ownerConstraints⟩)).entries =
      [("users", ⟨"USERS", none, [⟨"id", "INT", false⟩, ⟨"owner", "INT", true⟩],
          [⟨"PRIMARY", ["id"], .primaryKey⟩, ⟨"fk_USERS_owner", ["owner"], .foreignKey⟩,
            ⟨"fk_USERS_owner", ["owner"], .foreignKey⟩, ⟨"owner", ["owner", "id"], .normal⟩]⟩),
        ("orders", .named "orders")] := by
  refine ⟨?_, by decide +kernel⟩
  exact (apply_in_pieces usersAndOrders).1 ⟨["shop", "USERS"]⟩ [idColumn] [ownerColumn]
    ownerConstraints

end SqlAudit
