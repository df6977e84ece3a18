import SqlAudit.Catalog.Table

/-! # Catalogs

A catalog holds tables in the order in which their names were first declared. Each entry is
keyed by the table's name in small letters, so that a name finds its table in any case; declaring
a name again replaces the table and keeps its place. No key occurs twice, and every catalog
carries the proof of it.
-/

namespace SqlAudit

/-- Tables keyed by their names in small letters, in the order of first declaration. -/
@[ext]
structure Catalog where
  entries : List (String × Table)
  keys_nodup : (entries.map Prod.fst).Nodup := by decide
  deriving DecidableEq, Repr

namespace Catalog

def empty : Catalog :=
  ⟨[], List.nodup_nil⟩

instance : Inhabited Catalog :=
  ⟨empty⟩

def tables (c : Catalog) : List Table :=
  c.entries.map Prod.snd

def find? (c : Catalog) (name : String) : Option Table :=
  c.entries.lookup (Text.lower name)

/-- Entries with the table put in place of the one under the key, or added at the end. -/
def put (key : String) (t : Table) : List (String × Table) → List (String × Table)
  | [] => [(key, t)]
  | entry :: rest => if entry.1 = key then (key, t) :: rest else entry :: put key t rest

/-- Entries with a change applied to the table under the key. -/
def reviseAt (key : String) (change : Table → Table) (entries : List (String × Table)) :
    List (String × Table) :=
  entries.map fun entry => if entry.1 = key then (entry.1, change entry.2) else entry

theorem keys_put (key : String) (t : Table) (entries : List (String × Table)) :
    (put key t entries).map Prod.fst =
      if key ∈ entries.map Prod.fst then entries.map Prod.fst
      else entries.map Prod.fst ++ [key] := by
  induction entries with
  | nil => rfl
  | cons entry rest ih =>
      rw [put]
      by_cases hkey : entry.1 = key
      · simp [hkey]
      · rw [if_neg hkey, List.map_cons, ih]
        have hne : key ≠ entry.1 := fun h => hkey h.symm
        by_cases hmem : key ∈ rest.map Prod.fst
        · rw [if_pos hmem, List.map_cons, if_pos (List.mem_cons_of_mem _ hmem)]
        · have hnot : key ∉ (entry :: rest).map Prod.fst := by
            rw [List.map_cons, List.mem_cons]
            exact fun h => h.elim hne hmem
          rw [if_neg hmem, if_neg hnot, List.map_cons, List.cons_append]

/-- Putting a table under a key adds the key only if it is new. -/
theorem nodup_keys_put {entries : List (String × Table)} (hkeys : (entries.map Prod.fst).Nodup)
    (key : String) (t : Table) : ((put key t entries).map Prod.fst).Nodup := by
  rw [keys_put]
  split
  next => exact hkeys
  next hnew =>
    refine List.nodup_append.mpr ⟨hkeys, by simp, fun other hother last hlast heq => hnew ?_⟩
    rw [← List.mem_singleton.mp hlast, ← heq]
    exact hother

theorem keys_reviseAt (key : String) (change : Table → Table) (entries : List (String × Table)) :
    (reviseAt key change entries).map Prod.fst = entries.map Prod.fst := by
  rw [reviseAt, List.map_map]
  refine List.map_congr_left fun entry _ => ?_
  rw [Function.comp_apply]
  split <;> rfl

/-- Adds a table, replacing the one of the same name. -/
def insert (c : Catalog) (t : Table) : Catalog :=
  ⟨put (Text.lower t.name) t c.entries, nodup_keys_put c.keys_nodup _ _⟩

/-- Applies a change to the table of that name; an unknown name changes nothing. -/
def modify (c : Catalog) (name : String) (change : Table → Table) : Catalog :=
  ⟨reviseAt (Text.lower name) change c.entries, by rw [keys_reviseAt]; exact c.keys_nodup⟩

/-- Records an estimated number of rows for a known table. -/
def setRowCount (c : Catalog) (name : String) (rows : Nat) : Catalog :=
  c.modify name fun t => { t with rowCount := some rows }

end Catalog

end SqlAudit
