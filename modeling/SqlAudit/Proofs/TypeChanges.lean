import SqlAudit.Proofs.SchemaPieces
import SqlAudit.Rules.Migration

/-! # Changes of column types

The rule on type changes compares the types that an `ALTER TABLE` declares with those that the
catalog stores; the catalog stores the declared types when it carries the statement out. Both go by
the first column of a name and by base names of types. So as long as the operations set types only,
each on a column of its own, the rule has a finding for each type that is going to change, and
carrying the statement out leaves it nothing to find.
-/

namespace SqlAudit

/-! ## Stored types -/

namespace Table

/-- The stored type of the first column of a name. -/
def typeOf (t : Table) (name : String) : Option String :=
  (t.column name).map Column.typeName

/-- A change that keeps the name of a column is seen under this name and under no other. -/
theorem column_updateColumn (t : Table) {name : String} {change : Column → Column}
    (hchange : ∀ c, Text.lower c.name = Text.lower name →
      Text.lower (change c).name = Text.lower name)
    (other : String) :
    (t.updateColumn name change).column other =
      if Text.lower other = Text.lower name then (t.column other).map change
      else t.column other := by
  unfold column updateColumn
  dsimp only
  induction t.columns with
  | nil => simp [updateColumn.go]
  | cons first rest ih =>
      unfold updateColumn.go
      by_cases hfirst : Text.lower first.name = Text.lower name
      · by_cases hother : Text.lower other = Text.lower name
        · simp [Text.same, hfirst, hother, hchange first hfirst]
        · simp [Text.same, hfirst, hother, hchange first hfirst, Ne.symm hother]
      · by_cases hother : Text.lower first.name = Text.lower other
        · simp [Text.same, hfirst, ← hother]
        · simpa [Text.same, hfirst, hother] using ih

/-- A change of the type alone sets it under the name of the column and under no other. -/
theorem typeOf_updateColumn (t : Table) {name target : String} {change : Column → Column}
    (hname : ∀ c, Text.lower c.name = Text.lower name →
      Text.lower (change c).name = Text.lower name)
    (htype : ∀ c, (change c).typeName = target) (other : String) :
    (t.updateColumn name change).typeOf other =
      if Text.lower other = Text.lower name then (t.typeOf other).map fun _ => target
      else t.typeOf other := by
  rw [typeOf, typeOf, t.column_updateColumn hname]
  split
  next => simp only [Option.map_map, Function.comp_def, htype]
  next => rfl

end Table

/-! ## Operations that set types -/

/-- A column and the type that is declared for it. -/
structure Retyping where
  column : String
  declared : String
  deriving DecidableEq

/-- The operation declares a type for a column and keeps its name, up to the case of letters. -/
inductive AlterOperation.Retypes : AlterOperation → Retyping → Prop
  | modifyColumn (column declared : String) :
      Retypes (.modifyColumn column declared) ⟨column, declared⟩
  | changeColumn {column newName : String} (declared : String)
      (hname : Text.lower newName = Text.lower column) :
      Retypes (.changeColumn column newName declared) ⟨column, declared⟩

namespace Retyping

/-- The base name of the declared type. -/
def target (r : Retyping) : String :=
  TypeName.normalize r.declared

/-- The table and the column are known, and the stored type is another one than the declared one. -/
def Changes (r : Retyping) (known : Option Table) : Prop :=
  ∃ t column, known = some t ∧ t.column r.column = some column ∧ r.target ≠ column.typeName

instance (r : Retyping) (known : Option Table) : Decidable (r.Changes known) :=
  decidable_of_iff (known.any (fun t => (t.column r.column).any (r.target ≠ ·.typeName)) = true) (by
    simp [Changes, Option.any_eq_true])

end Retyping

/-- The operation sets the type of its own column, if there is one, and no other type. -/
theorem AlterOperation.Retypes.typeOf_alter {op : AlterOperation} {r : Retyping}
    (hop : op.Retypes r) (t : Table) (name : String) :
    (t.alter op).typeOf name =
      if Text.lower name = Text.lower r.column then (t.typeOf name).map fun _ => r.target
      else t.typeOf name := by
  cases hop with
  | modifyColumn column declared =>
      refine t.typeOf_updateColumn ?_ ?_ name
      · exact fun _ hc => hc
      · simp only [Retyping.target, implies_true]
  | changeColumn declared hname =>
      refine t.typeOf_updateColumn ?_ ?_ name
      · exact fun _ _ => hname
      · simp only [Retyping.target, implies_true]

namespace Table

variable {operations : List AlterOperation} {retypings : List Retyping}

/-- A run of operations leaves the types of columns that none of them is about. -/
theorem typeOf_foldl_alter_of_ne (hops : List.Forall₂ AlterOperation.Retypes operations retypings)
    {name : String} (hname : ∀ r ∈ retypings, Text.lower name ≠ Text.lower r.column) (t : Table) :
    (operations.foldl alter t).typeOf name = t.typeOf name := by
  induction hops generalizing t with
  | nil => rfl
  | cons hop _ ih =>
      obtain ⟨hfirst, hrest⟩ := List.forall_mem_cons.mp hname
      rw [List.foldl_cons, ih hrest, hop.typeOf_alter, if_neg hfirst]

/-- A run of operations on distinct columns leaves each of them with the type that is declared for
it. -/
theorem typeOf_foldl_alter (hops : List.Forall₂ AlterOperation.Retypes operations retypings)
    (hdistinct : retypings.Pairwise fun a b => Text.lower a.column ≠ Text.lower b.column)
    (t : Table) :
    ∀ r ∈ retypings,
      (operations.foldl alter t).typeOf r.column = (t.typeOf r.column).map fun _ => r.target := by
  induction hops generalizing t with
  | nil => simp
  | @cons op first _ rest hop hops ih =>
      obtain ⟨hfirst, hrest⟩ := List.pairwise_cons.mp hdistinct
      rw [List.forall_mem_cons]
      constructor
      · rw [List.foldl_cons, typeOf_foldl_alter_of_ne hops hfirst, hop.typeOf_alter, if_pos rfl]
      · intro r hr
        rw [List.foldl_cons, ih hrest _ r hr, hop.typeOf_alter, if_neg (hfirst r hr).symm]

end Table

/-! ## Findings -/

namespace Rules

/-- An operation is reported if its type differs from the recorded one of its column. -/
theorem typeChangeOf_eq (t : Table) {op : AlterOperation} {r : Retyping} (hop : op.Retypes r) :
    typeChangeOf t op = (t.column r.column).bind fun column =>
      if r.target = column.typeName then none else some (retypingRemark t column r.target) := by
  cases hop <;> rfl

/-- The finding on a column whose type is going to change. -/
def FindsRetyping (known : Option Table) (r : Retyping) (f : Finding) : Prop :=
  ∃ t column, known = some t ∧ t.column r.column = some column ∧
    f = ⟨"risky-type-change", .critical, retypingRemark t column r.target⟩

/-- The operations give one finding for each type that they change, in their order. -/
theorem finds_filterMap_typeChangeOf (t : Table) {operations : List AlterOperation}
    {retypings : List Retyping} (hops : List.Forall₂ AlterOperation.Retypes operations retypings) :
    List.Forall₂ (FindsRetyping (some t)) (retypings.filter (·.Changes (some t)))
      ((operations.filterMap (typeChangeOf t)).map riskyTypeChangeInfo.finding) := by
  induction hops with
  | nil => exact .nil
  | @cons op r _ _ hop _ ih =>
      have hremark := typeChangeOf_eq t hop
      by_cases hchanges : r.Changes (some t)
      · rw [List.filter_cons_of_pos (by simpa using hchanges)]
        obtain ⟨_, column, ⟨⟩, hcolumn, hne⟩ := hchanges
        rw [hcolumn, Option.bind_some, if_neg hne] at hremark
        rw [List.filterMap_cons_some hremark, List.map_cons]
        exact .cons ⟨t, column, rfl, hcolumn, rfl⟩ ih
      · rw [List.filter_cons_of_neg (by simpa using hchanges)]
        have hnone : typeChangeOf t op = none := by
          rw [hremark, Option.bind_eq_none_iff]
          intro column hcolumn
          exact if_pos (not_not.mp fun hne => hchanges ⟨t, column, rfl, hcolumn, hne⟩)
        rwa [List.filterMap_cons_none hnone]

/-- There is one finding for each operation that changes the recorded type, in order. -/
theorem riskyTypeChange_finds (catalog : Catalog) (settings : Settings) (change : AlterTable)
    {retypings : List Retyping}
    (hops : List.Forall₂ AlterOperation.Retypes change.operations retypings) :
    ∃ found, riskyTypeChange.evaluate ⟨.alterTable change, catalog, settings⟩ = some found ∧
      List.Forall₂
        (FindsRetyping (Context.table? ⟨.alterTable change, catalog, settings⟩ change.name))
        (retypings.filter
          (·.Changes (Context.table? ⟨.alterTable change, catalog, settings⟩ change.name)))
        found := by
  simp only [riskyTypeChange, Rule.ofDetails, alteredTable]
  cases Context.table? ⟨.alterTable change, catalog, settings⟩ change.name with
  | none =>
      have hunknown (r : Retyping) : ¬ r.Changes none := by simp [Retyping.Changes]
      simp [hunknown]
  | some t => exact ⟨_, rfl, finds_filterMap_typeChangeOf t hops⟩

end Rules

/-! ## Statements carried out -/

/-- The table that the statement names is found as the operations leave it. -/
theorem Context.table?_apply_alterTable (s s' : Statement) (catalog : Catalog) (settings : Settings)
    (change : AlterTable) :
    Context.table? ⟨s, catalog.apply (.alterTable change), settings⟩ change.name =
      (Context.table? ⟨s', catalog, settings⟩ change.name).map
        (change.operations.foldl Table.alter ·) := by
  have hfind : (catalog.apply (.alterTable change)).find? change.name.base =
      (catalog.find? change.name.base).map (change.operations.foldl Table.alter ·) := by
    rw [Catalog.apply, Catalog.find?_modify, if_pos rfl]
  unfold Context.table?
  dsimp only
  rw [hfind]
  split
  next =>
    split
    next => rfl
    next => rfl
  next => rfl

/-- No declared type differs from the stored one once the operations on distinct columns are carried
out. -/
theorem Retyping.not_changes_foldl_alter {operations : List AlterOperation}
    {retypings : List Retyping} (hops : List.Forall₂ AlterOperation.Retypes operations retypings)
    (hdistinct : retypings.Pairwise fun a b => Text.lower a.column ≠ Text.lower b.column)
    (known : Option Table) :
    ∀ r ∈ retypings, ¬ r.Changes (known.map (operations.foldl Table.alter ·)) := by
  rintro r hr ⟨_, column, hknown, hcolumn, hne⟩
  obtain ⟨t, -, rfl⟩ := Option.map_eq_some_iff.mp hknown
  have htype := Table.typeOf_foldl_alter hops hdistinct t r hr
  rw [Table.typeOf, hcolumn, Option.map_some, eq_comm, Option.map_eq_some_iff] at htype
  obtain ⟨_, -, htarget⟩ := htype
  exact hne htarget

/-- Take an `ALTER TABLE` whose operations declare types for columns of distinct names and keep
these names, in any case of letters. Against a catalog, the rule on type changes has one finding for
each operation that changes the stored type of a known column of a known table, in the order of the
operations, and no other finding. Against the catalog that the statement leaves behind it has none.
-/
theorem riskyTypeChange_finds_changed_types (catalog : Catalog) (settings : Settings)
    (change : AlterTable) (retypings : List Retyping)
    (hops : List.Forall₂ AlterOperation.Retypes change.operations retypings)
    (hdistinct : retypings.Pairwise fun a b => Text.lower a.column ≠ Text.lower b.column) :
    (∃ found, Rules.riskyTypeChange.evaluate ⟨.alterTable change, catalog, settings⟩ = some found ∧
      List.Forall₂
        (Rules.FindsRetyping (Context.table? ⟨.alterTable change, catalog, settings⟩ change.name))
        (retypings.filter
          (·.Changes (Context.table? ⟨.alterTable change, catalog, settings⟩ change.name)))
        found) ∧
    Rules.riskyTypeChange.evaluate ⟨.alterTable change,
      catalog.apply (.alterTable change), settings⟩ =
      some [] := by
  refine ⟨Rules.riskyTypeChange_finds catalog settings change hops, ?_⟩
  obtain ⟨found, heval, hfound⟩ :=
    Rules.riskyTypeChange_finds (catalog.apply (.alterTable change)) settings change hops
  rw [Context.table?_apply_alterTable _ (.alterTable change)] at hfound
  have hnone := Retyping.not_changes_foldl_alter hops hdistinct
    (Context.table? ⟨.alterTable change, catalog, settings⟩ change.name)
  rw [List.filter_eq_nil_iff.mpr fun r hr => by simpa using hnone r hr,
    List.forall₂_nil_left_iff] at hfound
  rw [heval, hfound]

/-- `CREATE TABLE Users (id INT, name VARCHAR(20), age INT)`. -/
def retypedUsers : Catalog :=
  .ofStatements [.createTable ⟨⟨["Users"]⟩,
    [⟨"id", "INT", []⟩, ⟨"name", "varchar(20)", []⟩, ⟨"age", "INT", []⟩], []⟩]

/-- `ALTER TABLE app.users MODIFY ID BIGINT, CHANGE Age AGE integer,
CHANGE name Name TEXT, MODIFY ghost TEXT`. -/
def retypeUsers : AlterTable :=
  ⟨⟨["app", "users"]⟩, [.modifyColumn "ID" "BIGINT", .changeColumn "Age" "AGE" "integer",
    .changeColumn "name" "Name" "TEXT", .modifyColumn "ghost" "TEXT"]⟩

def usersRetypings : List Retyping :=
  [⟨"ID", "BIGINT"⟩, ⟨"Age", "integer"⟩, ⟨"name", "TEXT"⟩, ⟨"ghost", "TEXT"⟩]

/-- Two of the four declared types are new for their columns. Carrying the statement out leaves no
finding. -/
theorem riskyTypeChange_finds_changed_types_users :
    List.Forall₂ AlterOperation.Retypes retypeUsers.operations usersRetypings ∧
    (usersRetypings.Pairwise fun a b => Text.lower a.column ≠ Text.lower b.column) ∧
    (∃ found, Rules.riskyTypeChange.evaluate
        ⟨.alterTable retypeUsers, retypedUsers, { database := some "APP" }⟩ = some found ∧
      List.Forall₂ (Rules.FindsRetyping (retypedUsers.find? "users"))
        [⟨"ID", "BIGINT"⟩, ⟨"name", "TEXT"⟩] found) ∧
    Rules.riskyTypeChange.evaluate
      ⟨.alterTable retypeUsers, retypedUsers.apply (.alterTable retypeUsers),
        { database := some "APP" }⟩ =
        some [] := by
  have hops : List.Forall₂ AlterOperation.Retypes retypeUsers.operations usersRetypings :=
    .cons (.modifyColumn _ _) (.cons (.changeColumn _ (by decide +kernel))
      (.cons (.changeColumn _ (by decide +kernel)) (.cons (.modifyColumn _ _) .nil)))
  have hdistinct :
      usersRetypings.Pairwise fun a b => Text.lower a.column ≠ Text.lower b.column := by
    decide +kernel
  have hknown : Context.table? ⟨.alterTable retypeUsers, retypedUsers, { database := some "APP" }⟩
      retypeUsers.name = retypedUsers.find? "users" := by
    decide +kernel
  have hchanges : usersRetypings.filter (·.Changes (retypedUsers.find? "users")) =
      [⟨"ID", "BIGINT"⟩, ⟨"name", "TEXT"⟩] := by
    decide +kernel
  have hfinds :=
    riskyTypeChange_finds_changed_types retypedUsers { database := some "APP" } retypeUsers
    usersRetypings hops hdistinct
  rw [hknown, hchanges] at hfinds
  exact ⟨hops, hdistinct, hfinds⟩

end SqlAudit
