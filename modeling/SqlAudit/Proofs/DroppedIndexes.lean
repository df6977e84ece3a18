import SqlAudit.Proofs.IndexedColumns
import SqlAudit.Proofs.SchemaPieces

/-! # Dropped indexes

Indexes are dropped by name. A `DROP INDEX` that names the table takes away the indexes of the given
names and nothing else; one that does not name the table has no effect, even if only one table has
an index of the name.

A constraint is dropped by the name of its index. Adding a named constraint and dropping it again
leaves no trace, except for a primary key, whose index has a fixed name instead of the one of the
constraint.
-/

namespace SqlAudit

/-! ## Indexes of a name -/

namespace Table

/-- The table has an index of that name in some case. -/
def HasIndex (t : Table) (name : String) : Prop :=
  ∃ i ∈ t.indexes, Text.lower i.name = Text.lower name

instance (t : Table) (name : String) : Decidable (t.HasIndex name) :=
  inferInstanceAs (Decidable (∃ i ∈ t.indexes, Text.lower i.name = Text.lower name))

/-- The table without the indexes of those names. -/
def withoutIndexes (t : Table) (names : List String) : Table :=
  { t with indexes := t.indexes.filter fun i => !names.any (Text.same i.name) }

variable {t : Table}

theorem not_hasIndex_withoutIndexes {names : List String} {name : String} (hname : name ∈ names) :
    ¬ (t.withoutIndexes names).HasIndex name := by
  rintro ⟨i, hi, hsame⟩
  have hkept := (List.mem_filter.mp hi).2
  have hdropped : names.any (Text.same i.name) = true :=
    List.any_eq_true.mpr ⟨name, hname, beq_iff_eq.mpr hsame⟩
  rw [hdropped] at hkept
  cases hkept

/-- Nothing is removed where there is no index of such a name. -/
theorem withoutIndexes_eq_self {names : List String} (hnone : ∀ name ∈ names, ¬ t.HasIndex name) :
    t.withoutIndexes names = t := by
  have hkept : t.indexes.filter (fun i => !names.any (Text.same i.name)) = t.indexes := by
    refine List.filter_eq_self.mpr fun i hi => ?_
    rw [Bool.not_eq_true', List.any_eq_false]
    intro name hname hsame
    exact hnone name hname ⟨i, hi, beq_iff_eq.mp hsame⟩
  rw [withoutIndexes, hkept]

theorem removeIndexes_eq (t : Table) (name : String) :
    t.removeIndexes name = t.withoutIndexes [name] := by
  simp [removeIndexes, withoutIndexes]

/-- Dropping indexes name by name is dropping the indexes of all the names. -/
theorem foldl_removeIndexes (t : Table) (names : List ObjectName) :
    names.foldl (fun t n => t.removeIndexes n.base) t =
      t.withoutIndexes (names.map ObjectName.base) := by
  induction names generalizing t with
  | nil => simp [withoutIndexes]
  | cons n rest ih =>
      rw [List.foldl_cons, ih]
      simp only [removeIndexes, withoutIndexes, List.filter_filter, List.map_cons, List.any_cons,
        Bool.not_or]
      simp only [Bool.and_comm]

end Table

/-! ## `DROP INDEX` -/

/-- Each index that the statement names stands on exactly one table of the catalog, and this is the
table that the statement names, if it names one. -/
def DropIndex.NamesOwnIndexes (d : DropIndex) (c : Catalog) : Prop :=
  ∀ n ∈ d.names, ∃ t, c.tables.filter (fun t => t.HasIndex n.base) = [t] ∧
    ∀ target, d.table = some target → c.find? target.base = some t

namespace Catalog

theorem mem_tables_of_only {c : Catalog} {index : String} {t : Table}
    (honly : c.tables.filter (fun t => t.HasIndex index) = [t]) :
    t ∈ c.tables ∧ t.HasIndex index := by
  have ht : t ∈ c.tables.filter (fun t => t.HasIndex index) := by
    rw [honly]
    exact List.mem_singleton_self t
  obtain ⟨htables, hindex⟩ := List.mem_filter.mp ht
  exact ⟨htables, of_decide_eq_true hindex⟩

/-- If only the table found under a name has a certain index, then this is the only entry with the
index. -/
theorem key_of_hasIndex {c : Catalog} {index name : String} {t : Table}
    (honly : c.tables.filter (fun t => t.HasIndex index) = [t]) (hfind : c.find? name = some t)
    {entry : String × Table} (hentry : entry ∈ c.entries) (hindex : entry.2.HasIndex index) :
    entry.1 = Text.lower name := by
  have honlyIndex := (mem_tables_of_only honly).2
  rw [tables, List.filter_map, List.map_eq_singleton_iff] at honly
  obtain ⟨only, honly, rfl⟩ := honly
  have hmem {other : String × Table} (hother : other ∈ c.entries)
      (hothers : other.2.HasIndex index) :
      other = only := by
    rw [← List.mem_singleton, ← honly, List.mem_filter]
    exact ⟨hother, decide_eq_true hothers⟩
  obtain ⟨before, after, hentries, -⟩ := List.lookup_eq_some_iff.mp hfind
  have hfound : (Text.lower name, only.2) ∈ c.entries := by
    rw [hentries]
    exact List.mem_append_right _ List.mem_cons_self
  rw [hmem hentry hindex, ← hmem hfound honlyIndex]

/-- Dropping indexes of one table drops them from the catalog if no other table has indexes of these
names. -/
theorem apply_dropIndex_of_table {c : Catalog} {d : DropIndex} (hnames : d.NamesOwnIndexes c)
    {target : ObjectName} (htable : d.table = some target) :
    c.apply (.dropIndex d) = c.mapTables fun t =>
      t.withoutIndexes (d.names.map ObjectName.base) := by
  rw [apply, htable]
  refine Catalog.ext (List.map_congr_left fun entry hentry => ?_)
  dsimp only
  by_cases hkey : entry.1 = Text.lower target.base
  · rw [if_pos hkey, Table.foldl_removeIndexes]
  · have hother : entry.2.withoutIndexes (d.names.map ObjectName.base) = entry.2 := by
      refine Table.withoutIndexes_eq_self fun name hname hindex => ?_
      obtain ⟨n, hn, rfl⟩ := List.mem_map.mp hname
      obtain ⟨t, honly, htarget⟩ := hnames n hn
      exact hkey (key_of_hasIndex honly (htarget target htable) hentry hindex)
    rw [if_neg hkey, hother]

/-- Without a table the statement changes nothing. -/
theorem apply_dropIndex_of_no_table (c : Catalog) {d : DropIndex} (htable : d.table = none) :
    c.apply (.dropIndex d) = c := by
  rw [apply, htable]

/-- Take a `DROP INDEX` each of whose names stands on one table only, the table of the statement if
it has one. Afterwards no table has an index of these names and all else is as before, exactly if
the statement names its table or drops nothing. Without the table it leaves the catalog as it is,
and so every index that it names. -/
theorem dropIndex_removes_iff (c : Catalog) (d : DropIndex) (hnames : d.NamesOwnIndexes c) :
    ((∀ t ∈ (c.apply (.dropIndex d)).tables, ∀ n ∈ d.names, ¬ t.HasIndex n.base) ∧
        c.apply (.dropIndex d) =
          c.mapTables (fun t => t.withoutIndexes (d.names.map ObjectName.base)) ↔
      d.table ≠ none ∨ d.names = []) ∧
    (d.table = none → c.apply (.dropIndex d) = c) := by
  refine ⟨⟨?_, ?_⟩, c.apply_dropIndex_of_no_table⟩
  · rintro ⟨hgone, -⟩
    by_contra hnot
    obtain ⟨htable, hsome⟩ := not_or.mp hnot
    obtain ⟨n, hn⟩ := List.exists_mem_of_ne_nil _ hsome
    obtain ⟨t, honly, -⟩ := hnames n hn
    -- The table that has the index is still there, and so is the index.
    obtain ⟨htables, hindex⟩ := mem_tables_of_only honly
    rw [c.apply_dropIndex_of_no_table (not_not.mp htable)] at hgone
    exact hgone t htables n hn hindex
  · intro hdrops
    have hremoved :
        c.apply (.dropIndex d) = c.mapTables fun t =>
          t.withoutIndexes (d.names.map ObjectName.base) := by
      cases htable : d.table with
      | some target => exact apply_dropIndex_of_table hnames htable
      | none =>
          have hnothing : d.names = [] := hdrops.resolve_left (not_not.mpr htable)
          have hsame (t : Table) : t.withoutIndexes (d.names.map ObjectName.base) = t :=
            Table.withoutIndexes_eq_self (by simp [hnothing])
          simp only [c.apply_dropIndex_of_no_table htable, mapTables, hsame, List.map_id']
    refine ⟨?_, hremoved⟩
    rw [hremoved]
    intro t ht n hn
    obtain ⟨entry, hentry, rfl⟩ := List.mem_map.mp ht
    obtain ⟨stored, -, rfl⟩ := List.mem_map.mp hentry
    exact Table.not_hasIndex_withoutIndexes (List.mem_map_of_mem hn)

end Catalog

/-- `CREATE TABLE users (name TEXT, INDEX by_name (name), UNIQUE one_name (name))` and
`CREATE TABLE orders (id INT PRIMARY KEY)`. -/
def indexedUsers : Catalog :=
  .ofStatements [.createTable ⟨⟨["users"]⟩, [⟨"name", "TEXT", []⟩],
      [.index (some "by_name") ["name"], .unique (some "one_name") ["name"]]⟩,
    .createTable ⟨⟨["orders"]⟩, [⟨"id", "INT", [.primaryKey]⟩], []⟩]

/-- `DROP INDEX One_Name, by_name ON shop.USERS`. -/
def dropUsersIndexes : DropIndex :=
  ⟨[⟨["One_Name"]⟩, ⟨["by_name"]⟩], some ⟨["shop", "USERS"]⟩⟩

/-- Both indexes of `users` are dropped, and the primary key of `orders` stays. -/
theorem Catalog.dropIndex_removes_iff_users :
    dropUsersIndexes.NamesOwnIndexes indexedUsers ∧
    (∀ t ∈ (indexedUsers.apply (.dropIndex dropUsersIndexes)).tables,
      ∀ n ∈ dropUsersIndexes.names, ¬ t.HasIndex n.base) ∧
    (indexedUsers.apply (.dropIndex dropUsersIndexes)).entries =
      [("users", ⟨"users", none, [⟨"name", "TEXT", true⟩], []⟩),
        ("orders", ⟨"orders", none, [⟨"id", "INT", false⟩],
          [⟨"PRIMARY", ["id"], .primaryKey⟩]⟩)] := by
  have hnames : dropUsersIndexes.NamesOwnIndexes indexedUsers := by
    have honly : ∀ n ∈ dropUsersIndexes.names,
        indexedUsers.tables.filter (fun t => t.HasIndex n.base) =
          (indexedUsers.find? "users").toList := by
      decide +kernel
    have hfind : indexedUsers.find? "USERS" = indexedUsers.find? "users" := by decide +kernel
    obtain ⟨t, ht⟩ : ∃ t, indexedUsers.find? "users" = some t := ⟨_, rfl⟩
    intro n hn
    refine ⟨t, by rw [honly n hn, ht]; rfl, ?_⟩
    rintro target ⟨⟩
    exact hfind.trans ht
  obtain ⟨hgone, hrest⟩ :=
    (dropIndex_removes_iff indexedUsers dropUsersIndexes hnames).1.mpr (Or.inl (by decide))
  exact ⟨hnames, hgone, (congrArg Catalog.entries hrest).trans (by decide +kernel)⟩

/-- `DROP INDEX i` without a table leaves the index, though only one table has it. -/
theorem Catalog.index_dropped_without_table_stays :
    DropIndex.NamesOwnIndexes ⟨[⟨["i"]⟩], none⟩ indexedTable ∧
    ∃ t ∈ (indexedTable.apply (.dropIndex ⟨[⟨["i"]⟩], none⟩)).tables, t.HasIndex "i" := by
  refine ⟨?_, by decide +kernel⟩
  intro n hn
  rw [List.mem_singleton.mp hn]
  refine ⟨⟨"t", none, [⟨"a", "INT", true⟩, ⟨"b", "INT", true⟩],
    [⟨"i", ["a"], .normal⟩]⟩, by decide +kernel, ?_⟩
  intro target htarget
  cases htarget

/-! ## Adding and dropping a constraint -/

/-- The index behind a named constraint has the name of the constraint, unless it is a primary key.
-/
theorem TableConstraint.index?_name {k : TableConstraint} {n table : String} {i : Index}
    (hname : k.name = some n) (hindex : k.index? table = some i) :
    (∃ columns, k = .primaryKey (some n) columns ∧ i.name = primaryIndexName) ∨ i.name = n := by
  cases k with
  | primaryKey name columns =>
      cases hname
      cases hindex
      exact Or.inl ⟨columns, rfl, rfl⟩
  | check name text => cases hindex
  | _ =>
      cases hname
      cases hindex
      exact Or.inr rfl

namespace Table

variable {t : Table} {n : String}

theorem removeIndexes_eq_self (hfresh : ¬ t.HasIndex n) : t.removeIndexes n = t := by
  rw [removeIndexes_eq]
  exact withoutIndexes_eq_self (by simpa using hfresh)

/-- Removing by a name that was free takes away what has just come under it. -/
theorem removeIndexes_addIndex (hfresh : ¬ t.HasIndex n) (i : Index) :
    (t.addIndex i).removeIndexes n =
      if Text.lower i.name = Text.lower n then t else t.addIndex i := by
  have hold : t.indexes.filter (!Text.same ·.name n) = t.indexes :=
    congrArg indexes (removeIndexes_eq_self hfresh)
  by_cases hname : Text.lower i.name = Text.lower n
  · have hsame : Text.same i.name n = true := beq_iff_eq.mpr hname
    simp [removeIndexes, addIndex, hold, hname, hsame]
  · have hother : Text.same i.name n = false := beq_eq_false_iff_ne.mpr hname
    simp [removeIndexes, addIndex, hold, hname, hother]

/-- A constraint is undone by its name, unless it is a primary key under another name than its
index. -/
theorem removeIndexes_addConstraint {k : TableConstraint} (hfresh : ¬ t.HasIndex n)
    (hname : k.name = some n)
    (hkey : ∀ columns, k = .primaryKey (some n) columns →
      Text.lower n = Text.lower primaryIndexName) :
    (t.addConstraint k).removeIndexes n = t := by
  unfold addConstraint
  split
  next i hindex =>
    have hi : Text.lower i.name = Text.lower n := by
      rcases k.index?_name hname hindex with ⟨columns, hk, hi⟩ | hi
      · rw [hi, hkey columns hk]
      · rw [hi]
    rw [removeIndexes_addIndex hfresh, if_pos hi]
  next => exact removeIndexes_eq_self hfresh

/-- A primary key is not dropped by the name of its constraint, if this is not the name of its
index. -/
theorem removeIndexes_addConstraint_primaryKey (hfresh : ¬ t.HasIndex n)
    (hother : Text.lower n ≠ Text.lower primaryIndexName) (columns : List String) :
    (t.addConstraint (.primaryKey (some n) columns)).removeIndexes n =
      t.addConstraint (.primaryKey (some n) columns) := by
  have hadd := removeIndexes_addIndex hfresh ⟨primaryIndexName, columns, .primaryKey⟩
  rwa [if_neg hother.symm] at hadd

/-- A primary key always changes the table: it adds an index. -/
theorem addConstraint_primaryKey_ne (name : Option String) (columns : List String) :
    t.addConstraint (.primaryKey name columns) ≠ t := by
  intro hsame
  have hlength := congrArg (fun t => t.indexes.length) hsame
  simp [addConstraint, TableConstraint.index?, addIndex] at hlength

end Table

namespace Catalog

/-- A change of a table depends only on what it makes of the one under the name. -/
theorem modify_congr {c : Catalog} {name : String} {t : Table} (hfind : c.find? name = some t)
    {change change' : Table → Table} (hchange : change t = change' t) :
    c.modify name change = c.modify name change' := by
  refine Catalog.ext (List.map_congr_left fun entry hentry => ?_)
  by_cases hkey : entry.1 = Text.lower name
  · have hstored : c.find? name = some entry.2 :=
      (lookup_eq_some_iff_mem c.keys_nodup).mpr (hkey ▸ hentry)
    obtain rfl : t = entry.2 := Option.some.inj (hfind.symm.trans hstored)
    rw [if_pos hkey, if_pos hkey, hchange]
  · rw [if_neg hkey, if_neg hkey]

/-- A catalog is unchanged if the table in question is. -/
theorem modify_eq_self_iff {c : Catalog} {name : String} {t : Table}
    (hfind : c.find? name = some t) (change : Table → Table) :
    c.modify name change = c ↔ change t = t := by
  constructor
  · intro hsame
    have hchanged := c.find?_modify name change name
    rw [hsame, if_pos rfl, hfind] at hchanged
    exact (Option.some.inj hchanged).symm
  · intro hchange
    have hid : c.modify name id = c := by simp [modify, reviseAt]
    rw [modify_congr hfind (hchange.trans (id_eq t).symm), hid]

/-- Adding a named constraint to a table and dropping it by its name gives the catalog back, exactly
if the constraint is no primary key or has the name of the index behind primary keys. Under any
other name a primary key is not found when it is dropped, and its index stays. -/
theorem dropConstraint_undoes_addConstraint_iff (c : Catalog) (table : ObjectName) (t : Table)
    (hfind : c.find? table.base = some t) (k : TableConstraint) (n : String)
    (hname : k.name = some n) (hfresh : ¬ t.HasIndex n) :
    ((c.apply (.alterTable ⟨table, [.addConstraint k]⟩)).apply
      (.alterTable ⟨table, [.dropConstraint n]⟩) = c ↔
      ∀ columns, k = .primaryKey (some n) columns → Text.lower n = Text.lower primaryIndexName) ∧
    ((∃ columns, k = .primaryKey (some n) columns) → Text.lower n ≠ Text.lower primaryIndexName →
      (c.apply (.alterTable ⟨table, [.addConstraint k]⟩)).apply
        (.alterTable ⟨table, [.dropConstraint n]⟩) =
        c.apply (.alterTable ⟨table, [.addConstraint k]⟩)) := by
  -- Both statements change the one table found under the name, so the question is about this table
  -- alone.
  have hone (c : Catalog) (op : AlterOperation) :
      c.apply (.alterTable ⟨table, [op]⟩) = c.modify table.base (·.alter op) := rfl
  rw [hone, hone, modify_modify, modify_eq_self_iff hfind]
  refine ⟨⟨?_, Table.removeIndexes_addConstraint hfresh hname⟩, ?_⟩
  · rintro hrestored columns rfl
    by_contra hother
    exact Table.addConstraint_primaryKey_ne _ _
      ((Table.removeIndexes_addConstraint_primaryKey hfresh hother columns).symm.trans hrestored)
  · rintro ⟨columns, rfl⟩ hother
    refine modify_congr hfind ?_
    exact Table.removeIndexes_addConstraint_primaryKey hfresh hother columns

/-- `CONSTRAINT owner FOREIGN KEY (id) REFERENCES users (id)`. -/
def ownerKey : TableConstraint :=
  .foreignKey (some "owner") ["id"] ⟨["users"]⟩ ["id"]

/-- A foreign key is added to `orders` and dropped again. -/
theorem dropConstraint_undoes_addConstraint_iff_orders :
    indexedUsers.find? "Orders" =
      some ⟨"orders", none, [⟨"id", "INT", false⟩], [⟨"PRIMARY", ["id"], .primaryKey⟩]⟩ ∧
    (indexedUsers.apply (.alterTable ⟨⟨["Orders"]⟩, [.addConstraint ownerKey]⟩)).apply
      (.alterTable ⟨⟨["Orders"]⟩, [.dropConstraint "owner"]⟩) = indexedUsers := by
  have hfind : indexedUsers.find? "Orders" =
      some ⟨"orders", none, [⟨"id", "INT", false⟩], [⟨"PRIMARY", ["id"], .primaryKey⟩]⟩ := by
    decide +kernel
  have hundone :=
    dropConstraint_undoes_addConstraint_iff indexedUsers ⟨["Orders"]⟩ _ hfind ownerKey "owner"
    rfl (by decide +kernel)
  refine ⟨hfind, hundone.1.mpr ?_⟩
  intro columns hkey
  cases hkey

/-- `ADD CONSTRAINT pk PRIMARY KEY (a)` followed by `DROP CONSTRAINT pk` leaves a primary key on a
table that had none. -/
theorem primary_key_not_dropped_by_name :
    (∃ t, indexedTable.find? "t" = some t ∧ ¬ t.HasIndex "pk") ∧
    (indexedTable.apply
      (.alterTable ⟨⟨["t"]⟩, [.addConstraint (.primaryKey (some "pk") ["a"])]⟩)).apply
      (.alterTable ⟨⟨["t"]⟩, [.dropConstraint "pk"]⟩) ≠ indexedTable := by
  refine ⟨?_, by decide +kernel⟩
  exact ⟨⟨"t", none, [⟨"a", "INT", true⟩, ⟨"b", "INT", true⟩],
    [⟨"i", ["a"], .normal⟩]⟩, by decide +kernel, by decide +kernel⟩

end Catalog

end SqlAudit
