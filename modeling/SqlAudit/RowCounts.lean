import SqlAudit.Catalog.Basic
import SqlAudit.Failure
import SqlAudit.Text.Blank

/-! # Row counts

Row counts come from the configuration and from entries `TABLE=ROWS`. Configured counts are applied
in the order of their table names, entries after them in the order given, so that a later count for
a table replaces an earlier one. A count for an unknown table is ignored.
-/

namespace SqlAudit.RowCounts

/-- Reads an entry `TABLE=ROWS`; underscores in the number are skipped. -/
def readEntry (entry : String) : Option (String × Nat) := do
  let (table, rows) ← Text.cut '=' entry
  let table := Text.trim table
  if table.isEmpty then none
  else
    let count ← Text.readCount (Text.removeChar '_' (Text.trim rows))
    pure (table, count)

/-- Reads entries in order and fails at the first one that is malformed. -/
def readEntries : List String → Except Failure (List (String × Nat))
  | [] => .ok []
  | entry :: rest =>
    match readEntry entry with
    | none => .error (.rowCount entry)
    | some count => (readEntries rest).map (count :: ·)

/-- The counts in the order of their table names, and by count where a name occurs twice. -/
def sorted (counts : List (String × Nat)) : List (String × Nat) :=
  counts.mergeSort fun a b => decide (a.1 < b.1 ∨ (a.1 = b.1 ∧ a.2 ≤ b.2))

def setAll (catalog : Catalog) (counts : List (String × Nat)) : Catalog :=
  counts.foldl (fun c count => c.setRowCount count.1 count.2) catalog

/-- The catalog with configured counts and then the given entries. -/
def attach (catalog : Catalog) (configured entries : List (String × Nat)) : Catalog :=
  setAll catalog (sorted configured ++ entries)

end SqlAudit.RowCounts
