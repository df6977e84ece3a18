import SqlAudit.Failure
import SqlAudit.Settings
import SqlAudit.Toml.Shape

/-! # Configuration

A configuration file defines some of the settings of a review and row counts of tables. There may be
one file for the user and one for the directory; the second takes the place of the first as a whole.
What the file in force leaves open has its default.
-/

namespace SqlAudit

structure FileSettings where
  database : Option String := none
  parallel : Option Bool := none
  disabled : Option (List String) := none
  severity : Option (List (String × String)) := none
  smallTableRows : Option Nat := none
  maxJoinTables : Option Nat := none
  maxOffset : Option Nat := none
  maxTableIndexes : Option Nat := none
  largeTableRows : Option Nat := none
  rowCounts : Option (List (String × Nat)) := none
  deriving DecidableEq, Repr, Inhabited

/-- All that is configured: the settings of reviews and the row counts of tables. -/
structure Configuration where
  settings : Settings := {}
  rowCounts : List (String × Nat) := []
  deriving DecidableEq, Repr, Inhabited

namespace FileSettings

open Toml (Fault Value)

/-- Takes in a limit. Other names are ignored. -/
def addThreshold (s : FileSettings) : String × Value → Except Fault FileSettings
  | ("small_table_rows", v) => do pure { s with smallTableRows := ← v.count "u64" }
  | ("max_join_tables", v) => do pure { s with maxJoinTables := ← v.count "usize" }
  | ("max_offset", v) => do pure { s with maxOffset := ← v.count "u64" }
  | ("max_table_indexes", v) => do pure { s with maxTableIndexes := ← v.count "usize" }
  | ("large_table_rows", v) => do pure { s with largeTableRows := ← v.count "u64" }
  | _ => .ok s

/-- Takes in a setting of the review. Other names are ignored. -/
def addSetting (s : FileSettings) : String × Value → Except Fault FileSettings
  | ("database", v) => do pure { s with database := ← v.text }
  | ("parallel", v) => do pure { s with parallel := ← v.boolean }
  | ("disabled", v) => do pure { s with disabled := ← v.list Value.text }
  | ("severity", v) => do pure { s with severity := ← v.mapping Value.text }
  | ("thresholds", v) => do
    (← v.record "struct Thresholds"
      ["small_table_rows", "max_join_tables", "max_offset", "max_table_indexes",
        "large_table_rows"]).foldlM addThreshold s
  | _ => .ok s

def addCatalogSetting (s : FileSettings) : String × Value → Except Fault FileSettings
  | ("row_counts", v) => do pure { s with rowCounts := ← v.mapping (Value.count "u64") }
  | _ => .ok s

/-- Takes in a part of a file. Other names are ignored. -/
def addPart (s : FileSettings) : String × Value → Except Fault FileSettings
  | ("review", v) => do
    (← v.record "struct ReviewConfig"
      ["database", "parallel", "thresholds", "disabled", "severity"]).foldlM addSetting s
  | ("catalog", v) => do
    (← v.record "struct CatalogConfig" ["row_counts"]).foldlM addCatalogSetting s
  | _ => .ok s

def ofTable (t : Toml.Table) : Except Fault FileSettings :=
  (Value.sortedFields t).foldlM addPart {}

def read (text : String) : Except Failure FileSettings :=
  match Toml.Document.read text >>= ofTable with
  | .ok s => .ok s
  | .error fault => .error (.configuration ("Invalid config file: " ++ fault.render text))

/-- The configuration in which everything else has its default. -/
def complete (s : FileSettings) : Configuration :=
  let usual : Settings := {}
  { settings :=
      { database := s.database
        parallel := s.parallel.getD usual.parallel
        disabled := s.disabled.getD usual.disabled
        severity := s.severity.getD usual.severity
        thresholds :=
          { smallTableRows := s.smallTableRows.getD usual.thresholds.smallTableRows
            maxJoinTables := s.maxJoinTables.getD usual.thresholds.maxJoinTables
            maxOffset := s.maxOffset.getD usual.thresholds.maxOffset
            maxTableIndexes := s.maxTableIndexes.getD usual.thresholds.maxTableIndexes
            largeTableRows := s.largeTableRows.getD usual.thresholds.largeTableRows } }
    rowCounts := s.rowCounts.getD [] }

end FileSettings

namespace Configuration

def read (text : String) : Except Failure Configuration :=
  (FileSettings.read text).map FileSettings.complete

def withDatabase (c : Configuration) (database : Option String) : Configuration :=
  match database with
  | some name => { c with settings := { c.settings with database := some name } }
  | none => c

/-- The configuration in force, from what the user's file and the directory's file define, and from
the database named by the environment. An empty name counts as none. -/
def inForce (user directory : Option FileSettings) (environment : Option String) : Configuration :=
  ((directory.or user).getD {}).complete.withDatabase (environment.filter (!·.isEmpty))

end Configuration

end SqlAudit
