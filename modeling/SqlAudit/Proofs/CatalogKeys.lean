import Mathlib.Data.List.Induction
import Mathlib.Data.List.Nodup
import SqlAudit.Catalog.Definition

/-! # Keys and order of a catalog

A catalog is filled by inserting tables, recording row counts and carrying out schema statements.
Whatever the sequence, the key of every table stays its name in small letters and no key occurs
twice, so a name finds the one table that has it. Tables stand in the order in which their names
came first, and each is what was inserted last under its name, with the changes made since.
-/

namespace SqlAudit

/-! ## Steps -/

/-- What may be done to a catalog. -/
inductive CatalogStep where
  | insert (t : Table)
  | setRowCount (name : String) (rows : Nat)
  | apply (s : Statement)

def Catalog.step (c : Catalog) : CatalogStep → Catalog
  | .insert t => c.insert t
  | .setRowCount name rows => c.setRowCount name rows
  | .apply s => c.apply s

/-- The catalog that the steps build from nothing. -/
def Catalog.run (steps : List CatalogStep) : Catalog :=
  steps.foldl Catalog.step .empty

namespace CatalogStep

/-- The table that a step inserts, in its own right or as the definition of a `CREATE TABLE`. -/
def inserted? : CatalogStep → Option Table
  | .insert t => some t
  | .apply (.createTable d) => some (Table.ofDefinition d)
  | _ => none

/-- The name of the table that a step changes in place, and the change. -/
def change? : CatalogStep → Option (String × (Table → Table))
  | .setRowCount name rows => some (name, fun t => { t with rowCount := some rows })
  | .apply (.createIndex d) => some (d.table.base, (·.addIndex d.index))
  | .apply (.alterTable a) => some (a.name.base, (a.operations.foldl Table.alter ·))
  | .apply (.dropIndex d) => d.table.map fun target =>
    (target.base, (d.names.foldl (fun t n => t.removeIndexes n.base) ·))
  | _ => none

/-- What a step makes of a table that it does not replace. -/
def revise (step : CatalogStep) (t : Table) : Table :=
  match step.change? with
  | some (name, change) => if Text.lower t.name = Text.lower name then change t else t
  | none => t

end CatalogStep

/-- A step inserts a table, changes one in place or does nothing. -/
theorem Catalog.step_eq (c : Catalog) (step : CatalogStep) :
    c.step step = match step.inserted?, step.change? with
      | some t, _ => c.insert t
      | none, some (name, change) => c.modify name change
      | none, none => c := by
  cases step with
  | insert t => rfl
  | setRowCount name rows => rfl
  | apply s =>
      cases s with
      | dropIndex d =>
          cases htable : d.table <;>
            simp [Catalog.step, Catalog.apply, CatalogStep.inserted?, CatalogStep.change?, htable]
      | _ => rfl

/-- A step that brings its own table inserts it, whatever was there. -/
theorem Catalog.step_of_inserted (c : Catalog) {step : CatalogStep} {t : Table}
    (hstep : step.inserted? = some t) : c.step step = c.insert t := by
  rw [Catalog.step_eq, hstep]

/-! ## Names of tables -/

theorem Table.addConstraint_name (t : Table) (k : TableConstraint) :
    (t.addConstraint k).name = t.name := by
  unfold Table.addConstraint
  split <;> rfl

/-- No operation renames the table. -/
theorem Table.alter_name (t : Table) (op : AlterOperation) : (t.alter op).name = t.name := by
  cases op with
  | addConstraint k => exact t.addConstraint_name k
  | _ => rfl

/-- A sequence of changes keeps what each of them keeps of a table. -/
theorem Table.foldl_keeps {α β : Type} (view : Table → β) (change : Table → α → Table)
    (hchange : ∀ t x, view (change t x) = view t) (t : Table) (xs : List α) :
    view (xs.foldl change t) = view t := by
  induction xs generalizing t with
  | nil => rfl
  | cons x rest ih => rw [List.foldl_cons, ih, hchange]

/-- No change in place touches the name of a table. -/
theorem CatalogStep.name_of_change {step : CatalogStep} {name : String} {change : Table → Table}
    (hchange : step.change? = some (name, change)) (t : Table) : (change t).name = t.name := by
  cases step with
  | insert _ => cases hchange
  | setRowCount _ _ =>
      cases hchange
      rfl
  | apply s =>
      cases s with
      | createIndex d =>
          cases hchange
          rfl
      | alterTable a =>
          cases hchange
          exact Table.foldl_keeps Table.name Table.alter Table.alter_name t a.operations
      | dropIndex d =>
          obtain ⟨target, -, heq⟩ := Option.map_eq_some_iff.mp hchange
          cases heq
          have hkept (t : Table) (n : ObjectName) : (t.removeIndexes n.base).name = t.name := rfl
          exact Table.foldl_keeps Table.name _ hkept t d.names
      | _ => cases hchange

/-- No revision renames the table, so it stays under its key. -/
theorem CatalogStep.revise_name (step : CatalogStep) (t : Table) :
    (step.revise t).name = t.name := by
  unfold CatalogStep.revise
  split
  next name change hchange =>
    split
    next => exact name_of_change hchange t
    next => rfl
  next => rfl

/-- A step that inserts a table leaves the others as they are. -/
theorem CatalogStep.revise_of_inserted {step : CatalogStep} {other : Table}
    (hstep : step.inserted? = some other) (t : Table) : step.revise t = t := by
  cases step with
  | insert _ => rfl
  | setRowCount _ _ => cases hstep
  | apply s =>
      cases s with
      | createTable d => rfl
      | _ => cases hstep

/-! ## Well-keyed catalogs -/

/-- The keys of a catalog in order. -/
def Catalog.keys (c : Catalog) : List String :=
  c.entries.map Prod.fst

/-- Every table is stored under its name in small letters. -/
def Catalog.WellKeyed (c : Catalog) : Prop :=
  ∀ entry ∈ c.entries, entry.1 = Text.lower entry.2.name

namespace Catalog

theorem mem_put {key : String} {t : Table} {entries : List (String × Table)}
    {entry : String × Table} (hentry : entry ∈ put key t entries) :
    entry = (key, t) ∨ entry ∈ entries := by
  induction entries with
  | nil => exact Or.inl (List.mem_singleton.mp hentry)
  | cons first rest ih =>
      unfold put at hentry
      split at hentry
      next =>
        rcases List.mem_cons.mp hentry with heq | hrest
        · exact Or.inl heq
        · exact Or.inr (List.mem_cons_of_mem _ hrest)
      next =>
        rcases List.mem_cons.mp hentry with heq | hrest
        · exact Or.inr (heq ▸ List.mem_cons_self)
        · exact (ih hrest).imp_right (List.mem_cons_of_mem _)

theorem lookup_cons_eq (k : String) (entry : String × Table) (rest : List (String × Table)) :
    (entry :: rest).lookup k = if k = entry.1 then some entry.2 else rest.lookup k := by
  rw [List.lookup_cons]
  by_cases hk : k = entry.1
  · rw [if_pos hk, beq_iff_eq.mpr hk]
  · rw [if_neg hk, beq_eq_false_iff_ne.mpr hk]

/-- The new entry is found under its key, and everything else as before. -/
theorem lookup_put (key : String) (t : Table) (entries : List (String × Table)) (k : String) :
    (put key t entries).lookup k = if k = key then some t else entries.lookup k := by
  induction entries with
  | nil => exact lookup_cons_eq k (key, t) []
  | cons entry rest ih =>
      unfold put
      split
      next hkey =>
        rw [lookup_cons_eq, lookup_cons_eq, hkey]
        split <;> rfl
      next hkey =>
        rw [lookup_cons_eq, lookup_cons_eq, ih]
        by_cases hk : k = entry.1
        · rw [if_pos hk, if_pos hk, if_neg fun heq => hkey (hk.symm.trans heq)]
        · rw [if_neg hk, if_neg hk]

/-- An inserted table is found under its name in any case; other names are not affected. -/
theorem find?_insert (c : Catalog) (t : Table) (n : String) :
    (c.insert t).find? n = if Text.lower n = Text.lower t.name then some t else c.find? n :=
  lookup_put (Text.lower t.name) t c.entries (Text.lower n)

/-- A new key comes last, and a known one keeps its place. -/
theorem keys_insert (c : Catalog) (t : Table) :
    (c.insert t).keys =
      if Text.lower t.name ∈ c.keys then c.keys else c.keys ++ [Text.lower t.name] :=
  keys_put (Text.lower t.name) t c.entries

theorem wellKeyed_empty : empty.WellKeyed :=
  List.forall_mem_nil _

theorem WellKeyed.insert {c : Catalog} (hc : c.WellKeyed) (t : Table) : (c.insert t).WellKeyed := by
  intro entry hentry
  rcases mem_put hentry with rfl | hentry
  · rfl
  · exact hc entry hentry

/-- The tables under the same keys, each with a change. -/
def mapTables (c : Catalog) (change : Table → Table) : Catalog where
  entries := c.entries.map fun entry => (entry.1, change entry.2)
  keys_nodup := by
    rw [List.map_map]
    exact c.keys_nodup

theorem keys_mapTables (c : Catalog) (change : Table → Table) :
    (c.mapTables change).keys = c.keys := by
  rw [keys, keys, mapTables, List.map_map]
  rfl

theorem lookup_map_snd (change : Table → Table) (entries : List (String × Table)) (k : String) :
    (entries.map fun entry => (entry.1, change entry.2)).lookup k =
      (entries.lookup k).map change := by
  induction entries with
  | nil => rfl
  | cons entry rest ih =>
      rw [List.map_cons, lookup_cons_eq, lookup_cons_eq, ih]
      split <;> rfl

/-- A table is found as before, with the change made. -/
theorem find?_mapTables (c : Catalog) (change : Table → Table) (n : String) :
    (c.mapTables change).find? n = (c.find? n).map change :=
  lookup_map_snd change c.entries (Text.lower n)

/-- A change that keeps the names keeps every table under its key. -/
theorem WellKeyed.mapTables {c : Catalog} (hc : c.WellKeyed) {change : Table → Table}
    (hname : ∀ t, (change t).name = t.name) : (c.mapTables change).WellKeyed := by
  intro entry hentry
  obtain ⟨stored, hstored, rfl⟩ := List.mem_map.mp hentry
  exact (hc stored hstored).trans (congrArg Text.lower (hname stored.2).symm)

/-- Where keys are names in small letters, a step that inserts nothing revises each table by its
name. -/
theorem WellKeyed.step_of_not_inserted {c : Catalog} (hc : c.WellKeyed) {step : CatalogStep}
    (hstep : step.inserted? = none) : c.step step = c.mapTables step.revise := by
  rw [step_eq, hstep]
  cases hchange : step.change? with
  | none =>
      have hrevise (t : Table) : step.revise t = t := by rw [CatalogStep.revise, hchange]
      simp only [Catalog.mapTables, hrevise, List.map_id']
  | some target =>
      refine Catalog.ext (List.map_congr_left fun entry hentry => ?_)
      rw [CatalogStep.revise, hchange, ← hc entry hentry]
      dsimp only
      split <;> rfl

/-- One step keeps a catalog well-keyed. -/
theorem WellKeyed.step {c : Catalog} (hc : c.WellKeyed) (step : CatalogStep) :
    (c.step step).WellKeyed := by
  cases hstep : step.inserted? with
  | some t =>
      rw [c.step_of_inserted hstep]
      exact hc.insert t
  | none =>
      rw [hc.step_of_not_inserted hstep]
      exact hc.mapTables step.revise_name

/-- The run of `WellKeyed.step` over some steps. -/
theorem WellKeyed.foldl_step {c : Catalog} (hc : c.WellKeyed) (steps : List CatalogStep) :
    (steps.foldl Catalog.step c).WellKeyed := by
  induction steps generalizing c with
  | nil => exact hc
  | cons step rest ih => exact ih (hc.step step)

theorem wellKeyed_run (steps : List CatalogStep) : (run steps).WellKeyed :=
  wellKeyed_empty.foldl_step steps

/-- The catalog of every script has its tables under their keys. -/
theorem wellKeyed_ofStatements (script : List Statement) : (ofStatements script).WellKeyed := by
  have hrun : ofStatements script = run (script.map .apply) := by
    rw [ofStatements, run, List.foldl_map]
    rfl
  rw [hrun]
  exact wellKeyed_run _

/-! ## Lookup -/

/-- With distinct keys it does not matter that the first entry is taken. -/
theorem lookup_eq_some_iff_mem {entries : List (String × Table)}
    (hnodup : (entries.map Prod.fst).Nodup) {key : String} {t : Table} :
    entries.lookup key = some t ↔ (key, t) ∈ entries := by
  induction entries with
  | nil => simp
  | cons entry rest ih =>
      obtain ⟨first, stored⟩ := entry
      obtain ⟨hfirst, hrest⟩ := List.nodup_cons.mp hnodup
      rw [lookup_cons_eq, List.mem_cons, Prod.mk.injEq]
      by_cases hkey : key = first
      · subst hkey
        have hlater : (key, t) ∉ rest := fun hmem => hfirst (List.mem_map.mpr ⟨_, hmem, rfl⟩)
        simp [hlater, eq_comm]
      · simp [hkey, ih hrest]

/-- A name finds a table exactly if the table is stored and has that name in some case. -/
theorem WellKeyed.find?_eq_some_iff {c : Catalog} (hc : c.WellKeyed) {n : String} {t : Table} :
    c.find? n = some t ↔ t ∈ c.tables ∧ Text.lower t.name = Text.lower n := by
  rw [find?, lookup_eq_some_iff_mem c.keys_nodup, tables, List.mem_map]
  constructor
  · intro hentry
    exact ⟨⟨_, hentry, rfl⟩, (hc _ hentry).symm⟩
  · rintro ⟨⟨⟨key, stored⟩, hentry, rfl⟩, hname⟩
    rw [← hname, ← hc _ hentry]
    exact hentry

theorem WellKeyed.keys_eq {c : Catalog} (hc : c.WellKeyed) :
    c.keys = c.tables.map fun t => Text.lower t.name := by
  rw [keys, tables, List.map_map]
  exact List.map_congr_left hc

/-! ## Runs -/

/-- The names of the inserted tables in small letters, in the order of insertion. -/
def insertedKeys (steps : List CatalogStep) : List String :=
  (steps.filterMap CatalogStep.inserted?).map fun t => Text.lower t.name

/-- Keys stand in the order in which they were first inserted. -/
theorem keys_run (steps : List CatalogStep) :
    (run steps).keys = (insertedKeys steps).eraseDups := by
  induction steps using List.reverseRecOn with
  | nil => rfl
  | append_singleton steps step ih =>
      have hrun : run (steps ++ [step]) = (run steps).step step :=
        List.foldl_concat _ _ _ _
      have hkeys : insertedKeys (steps ++ [step]) =
          insertedKeys steps ++ (step.inserted?.toList.map fun t => Text.lower t.name) := by
        cases hstep : step.inserted? <;> simp [insertedKeys, hstep]
      rw [hrun, hkeys]
      cases hstep : step.inserted? with
      | none =>
          rw [(wellKeyed_run steps).step_of_not_inserted hstep, keys_mapTables, ih]
          simp
      | some t =>
          simp only [Catalog.step_of_inserted _ hstep, keys_insert, ih, List.eraseDups_append,
            List.mem_eraseDups]
          by_cases hknown : Text.lower t.name ∈ insertedKeys steps
          · simp [hknown, List.removeAll]
          · simp [hknown, List.removeAll, List.eraseDups_cons]

/-- As long as nothing is inserted under a name, its table is revised step by step. -/
theorem WellKeyed.find?_foldl_step {c : Catalog} (hc : c.WellKeyed) {n : String} {t : Table}
    (hfind : c.find? n = some t) {steps : List CatalogStep}
    (hsteps : ∀ step ∈ steps, ∀ other, step.inserted? = some other →
      Text.lower other.name ≠ Text.lower n) :
    (steps.foldl Catalog.step c).find? n = some (steps.foldl (fun t step => step.revise t) t) := by
  induction steps generalizing c t with
  | nil => exact hfind
  | cons step rest ih =>
      obtain ⟨hstep, hrest⟩ := List.forall_mem_cons.mp hsteps
      refine ih (hc.step step) ?_ hrest
      cases hinserted : step.inserted? with
      | none => rw [hc.step_of_not_inserted hinserted, find?_mapTables, hfind, Option.map_some]
      | some other =>
          -- The step inserts a table of another name.
          dsimp only
          rw [c.step_of_inserted hinserted, CatalogStep.revise_of_inserted hinserted, find?_insert,
            if_neg (hstep other hinserted).symm, hfind]

/-- A catalog built by any sequence of insertions, row counts and schema statements stores every
table under its name in small letters and no two under one key. So a name finds a table exactly if a
stored table has that name in some case, and this table is the only one. The tables stand in the
order in which their names were first inserted. The table of a name is the one inserted last under
it, as later steps have revised it in place. -/
theorem run_keeps_keys_order_and_content (steps : List CatalogStep) :
    (∀ entry ∈ (run steps).entries, entry.1 = Text.lower entry.2.name) ∧
    ((run steps).entries.map Prod.fst).Nodup ∧
    (∀ n, (∃ t, (run steps).find? n = some t) ↔
      ∃ t ∈ (run steps).tables, Text.lower t.name = Text.lower n) ∧
    (∀ n t, (run steps).find? n = some t ↔
      t ∈ (run steps).tables ∧ Text.lower t.name = Text.lower n) ∧
    ((run steps).tables.map fun t => Text.lower t.name) =
      ((steps.filterMap CatalogStep.inserted?).map fun t => Text.lower t.name).eraseDups ∧
    ∀ before step after t, steps = before ++ step :: after → step.inserted? = some t →
      (∀ later ∈ after, ∀ other, later.inserted? = some other →
        Text.lower other.name ≠ Text.lower t.name) →
      (run steps).find? t.name = some (after.foldl (fun t later => later.revise t) t) := by
  have hc := wellKeyed_run steps
  refine ⟨hc, (run steps).keys_nodup, fun n => ?_, fun n t => hc.find?_eq_some_iff, ?_, ?_⟩
  · exact exists_congr fun t => hc.find?_eq_some_iff
  · rw [← hc.keys_eq]
    exact keys_run steps
  · rintro before step after t rfl hinserted hafter
    have hrun : run (before ++ step :: after) =
        after.foldl Catalog.step ((run before).step step) := by
      rw [run, List.foldl_append, List.foldl_cons, run]
    rw [hrun]
    refine ((wellKeyed_run before).step step).find?_foldl_step ?_ hafter
    rw [Catalog.step_of_inserted _ hinserted, find?_insert, if_pos rfl]

/-- `CREATE TABLE shop.USERS (id INT PRIMARY KEY)`. -/
def usersDefinition : CreateTable :=
  ⟨⟨["shop", "USERS"]⟩, [⟨"id", "INT", [.primaryKey]⟩], []⟩

/-- Steps after the definition: a row count, and `ALTER TABLE users DROP COLUMN Id`. -/
def usersChanges : List CatalogStep :=
  [.setRowCount "users" 50, .apply (.alterTable ⟨⟨["users"]⟩, [.dropColumn "Id"]⟩)]

/-- A table `Users` is followed by one of another name and then defined anew, counted and altered:
it stays in front and has what the definition and the changes after it give. -/
theorem run_keeps_keys_order_and_content_users :
    (∀ later ∈ usersChanges, ∀ other, later.inserted? = some other →
      Text.lower other.name ≠ Text.lower (Table.ofDefinition usersDefinition).name) ∧
    (run ([.insert (.named "Users"), .insert (.named "orders")] ++
      .apply (.createTable usersDefinition) :: usersChanges)).find? "USERS" =
        some ⟨"USERS", some 50, [], [⟨"PRIMARY", ["id"], .primaryKey⟩]⟩ ∧
    (run ([.insert (.named "Users"), .insert (.named "orders")] ++
      .apply (.createTable usersDefinition) :: usersChanges)).tables.map
        (fun t => Text.lower t.name) =
        ["users", "orders"] := by
  have hlater : ∀ later ∈ usersChanges, ∀ other, later.inserted? = some other →
      Text.lower other.name ≠ Text.lower (Table.ofDefinition usersDefinition).name := by
    simp [usersChanges, CatalogStep.inserted?]
  obtain ⟨-, -, -, -, horder, hcontent⟩ := run_keeps_keys_order_and_content
    ([.insert (.named "Users"), .insert (.named "orders")] ++
      .apply (.createTable usersDefinition) :: usersChanges)
  refine ⟨hlater, (hcontent _ _ _ _ rfl rfl hlater).trans ?_, horder.trans ?_⟩
  · decide +kernel
  · decide +kernel

end Catalog

end SqlAudit
