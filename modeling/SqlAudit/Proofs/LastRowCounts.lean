import Mathlib.Data.String.Basic
import Mathlib.Tactic.Tauto
import SqlAudit.Proofs.SchemaPieces

/-! # Row counts given several times

A schema says nothing on the number of rows of its tables; row counts come from the configuration
and from the command line. Configured counts are set first, in the order of their keys, and the
entries of the command line after them. So of several counts for one table, which may be written in
different cases, the last entry of the command line holds, and otherwise the configured count with
the greatest key. The configuration is a map without an order of its own, and the order in which it
is listed does not matter.
-/

namespace SqlAudit

/-! ## Order of texts -/

namespace Text

def bytes (s : String) : List UInt8 :=
  s.toUTF8.data.toList

theorem bytes_eq (s : String) : bytes s = s.toList.flatMap String.utf8EncodeChar := by
  rw [bytes, String.toUTF8, ← String.utf8Encode_toList, List.utf8Encode,
    List.toList_data_toByteArray]

/-- The first digit to the base 64 in which two numbers differ tells which of them is smaller. -/
theorem digits_lt {m n : Nat} (hlt : m < n) :
    m / 262144 < n / 262144 ∨ m / 262144 = n / 262144 ∧ (m / 4096 % 64 < n / 4096 % 64 ∨
      m / 4096 % 64 = n / 4096 % 64 ∧ (m / 64 % 64 < n / 64 % 64 ∨
        m / 64 % 64 = n / 64 % 64 ∧ m % 64 < n % 64)) := by
  omega

/-- Two characters differ first at a byte that both have, and there as the characters do. -/
theorem encoded_lt {c d : Char} (hlt : c < d) (rest rest' : List UInt8) :
    String.utf8EncodeChar c ++ rest < String.utf8EncodeChar d ++ rest' := by
  have hval : c.val.toNat < d.val.toNat := hlt
  have hmax : d.val.toNat < 1114112 := by
    rcases d.valid with hsmall | ⟨-, hlarge⟩
    · exact Nat.lt_trans hsmall (by decide)
    · exact hlarge
  simp only [String.utf8EncodeChar]
  by_cases hfour : 65535 < c.val.toNat
  · -- Both have four bytes, and each byte is a digit added to a constant.
    rw [if_neg (by omega), if_neg (by omega), if_neg (by omega), if_neg (by omega),
      if_neg (by omega), if_neg (by omega)]
    simp (disch := omega) only [List.cons_append, List.nil_append, List.cons_lt_cons_iff,
      UInt8.lt_iff_toNat_lt, ← UInt8.toNat_inj, UInt8.toNat_ofNat', Nat.mod_eq_of_lt,
      Nat.add_lt_add_iff_right, Nat.add_right_cancel_iff]
    have hdigits := digits_lt hval
    tauto
  · split_ifs <;>
      simp only [List.cons_append, List.nil_append, List.cons_lt_cons_iff, UInt8.lt_iff_toNat_lt,
        ← UInt8.toNat_inj, UInt8.toNat_ofNat'] <;>
      omega

/-- Encoding keeps the order of lists of characters. -/
theorem flatMap_encoded_lt {cs ds : List Char} (hlt : cs < ds) :
    cs.flatMap String.utf8EncodeChar < ds.flatMap String.utf8EncodeChar := by
  induction hlt with
  | @nil d ds =>
      rw [List.flatMap_cons]
      cases hd : String.utf8EncodeChar d with
      | nil => exact absurd hd String.utf8EncodeChar_ne_nil
      | cons byte _ => exact List.nil_lt_cons _ _
  | cons _ ih => exact List.append_left_lt ih
  | rel hchar => exact encoded_lt hchar _ _

theorem bytes_lt {a b : String} (hlt : a < b) : bytes a < bytes b := by
  rw [bytes_eq, bytes_eq]
  exact flatMap_encoded_lt (String.lt_iff_toList_lt.mp hlt)

/-- Texts are ordered as their bytes are. -/
theorem bytes_le_iff {a b : String} : bytes a ≤ bytes b ↔ a ≤ b := by
  rcases lt_trichotomy a b with hlt | rfl | hlt
  · simp [hlt.le, List.le_of_lt (bytes_lt hlt)]
  · simp
  · simp [hlt.not_ge, bytes_lt hlt]

end Text

/-! ## Tables of a schema -/

namespace Table

/-- The table with that row count, if there is one, and otherwise with the one it has. -/
def counted (t : Table) (rows : Option Nat) : Table :=
  { t with rowCount := rows.or t.rowCount }

theorem addConstraint_rowCount (t : Table) (k : TableConstraint) :
    (t.addConstraint k).rowCount = t.rowCount := by
  unfold addConstraint
  split <;> rfl

/-- No operation touches the row count. -/
theorem alter_rowCount (t : Table) (op : AlterOperation) : (t.alter op).rowCount = t.rowCount := by
  cases op with
  | addConstraint k => exact t.addConstraint_rowCount k
  | _ => rfl

/-- No operation sets a row count. -/
theorem IsBuilt.rowCount {t : Table} (ht : t.IsBuilt) : t.rowCount = none := by
  obtain ⟨operations, hbuilt⟩ := ht
  rw [hbuilt]
  exact foldl_keeps Table.rowCount alter alter_rowCount (named t.name) operations

end Table

namespace Catalog

def Uncounted (c : Catalog) : Prop :=
  ∀ entry ∈ c.entries, entry.2.rowCount = none

/-- A schema alone says nothing about row counts. -/
theorem uncounted_ofStatements (script : List Statement) : (ofStatements script).Uncounted :=
  fun entry hentry => (isBuilt_ofStatements script entry.2 (List.mem_map_of_mem hentry)).rowCount

theorem mapTables_mapTables (c : Catalog) (first second : Table → Table) :
    (c.mapTables first).mapTables second = c.mapTables fun t => second (first t) := by
  refine Catalog.ext ?_
  simp only [mapTables, List.map_map]
  rfl

/-- Where no table has statistics, recording counts replaces none. -/
theorem Uncounted.mapTables_counted {c : Catalog} (hc : c.Uncounted) (count : Table → Option Nat) :
    c.mapTables (fun t => t.counted (count t)) = c.mapTables fun t =>
      { t with rowCount := count t } := by
  refine Catalog.ext (List.map_congr_left fun entry hentry => ?_)
  simp only [Table.counted, hc entry hentry, Option.or_none]

end Catalog

/-! ## The last count for a table -/

namespace RowCounts

def last? (counts : List (String × Nat)) (name : String) : Option Nat :=
  (counts.reverse.find? fun count => Text.same count.1 name).map Prod.snd

/-- The last entry for a table gives the count. -/
def GivenLast (entries : List (String × Nat)) (name : String) (rows : Nat) : Prop :=
  ∃ before given after, entries = before ++ (given, rows) :: after ∧
    Text.lower given = Text.lower name ∧ ∀ later ∈ after, Text.lower later.1 ≠ Text.lower name

/-- The last of the counts given for a name, in any case. -/
theorem last?_eq_some_iff {counts : List (String × Nat)} {name : String} {rows : Nat} :
    last? counts name = some rows ↔ GivenLast counts name rows := by
  simp only [last?, GivenLast, Option.map_eq_some_iff, List.find?_eq_some_iff_append,
    Text.same, beq_iff_eq, Bool.not_eq_true', beq_eq_false_iff_ne]
  constructor
  · rintro ⟨⟨given, _⟩, ⟨hgiven, after, before, hcounts, hafter⟩, rfl⟩
    refine ⟨before.reverse, given, after.reverse, ?_, hgiven, by simpa using hafter⟩
    simpa using congrArg List.reverse hcounts
  · rintro ⟨before, given, after, rfl, hgiven, hafter⟩
    exact ⟨(given, rows), ⟨hgiven, after.reverse, before.reverse, by simp, by simpa using hafter⟩,
      rfl⟩

theorem last?_eq_none_iff {counts : List (String × Nat)} {name : String} :
    last? counts name = none ↔ ∀ count ∈ counts, Text.lower count.1 ≠ Text.lower name := by
  simp [last?, Text.same]

/-- Later counts take precedence. -/
theorem last?_append (first second : List (String × Nat)) (name : String) :
    last? (first ++ second) name = (last? second name).or (last? first name) := by
  rw [last?, List.reverse_append, List.find?_append]
  cases hfound : second.reverse.find? fun count => Text.same count.1 name <;> simp [last?, hfound]

/-- Setting counts one after the other leaves each table with the count that comes last for it. -/
theorem setAll_eq {c : Catalog} (hc : c.WellKeyed) (counts : List (String × Nat)) :
    setAll c counts = c.mapTables fun t => t.counted (last? counts t.name) := by
  induction counts using List.reverseRecOn with
  | nil => simp [setAll, Catalog.mapTables, last?, Table.counted]
  | append_singleton counts count ih =>
      obtain ⟨name, rows⟩ := count
      have hset : setAll c (counts ++ [(name, rows)]) =
          (setAll c counts).step (.setRowCount name rows) := List.foldl_concat _ _ _ _
      -- One more count changes the table of its name and no other.
      have hstep (t : Table) :
          (CatalogStep.setRowCount name rows).revise (t.counted (last? counts t.name)) =
            t.counted (last? (counts ++ [(name, rows)]) t.name) := by
        rw [last?_append]
        by_cases hname : Text.lower t.name = Text.lower name
        · simp [CatalogStep.revise, CatalogStep.change?, Table.counted, last?, Text.same, hname]
        · simp [CatalogStep.revise, CatalogStep.change?, Table.counted, last?, Text.same, hname,
            Ne.symm hname]
      have hkeyed : (c.mapTables fun t => t.counted (last? counts t.name)).WellKeyed :=
        hc.mapTables fun _ => rfl
      have hkept : (CatalogStep.setRowCount name rows).inserted? = none := rfl
      rw [hset, ih, hkeyed.step_of_not_inserted hkept, Catalog.mapTables_mapTables]
      simp only [hstep]

/-! ## Configured counts -/

/-- The order in which configured counts are set. -/
def Precedes (a b : String × Nat) : Prop :=
  a.1 < b.1 ∨ (a.1 = b.1 ∧ a.2 ≤ b.2)

theorem sorted_perm (counts : List (String × Nat)) : (sorted counts).Perm counts :=
  List.mergeSort_perm _ _

theorem sorted_pairwise (counts : List (String × Nat)) : (sorted counts).Pairwise Precedes := by
  have hsorted : (sorted counts).Pairwise fun a b =>
      decide (a.1 < b.1 ∨ (a.1 = b.1 ∧ a.2 ≤ b.2)) = true := by
    refine List.pairwise_mergeSort ?_ ?_ counts
    · intro a b c hab hbc
      grind
    · intro a b
      grind
  exact hsorted.imp of_decide_eq_true

/-- The counts of a map are set in one order, however the map is listed. -/
theorem sorted_eq_of_perm {counts counts' : List (String × Nat)} (hperm : counts.Perm counts') :
    sorted counts = sorted counts' := by
  refine List.Perm.eq_of_pairwise ?_ (sorted_pairwise counts) (sorted_pairwise counts') ?_
  · rintro ⟨name, rows⟩ ⟨name', rows'⟩ - - hle hge
    simp only [Precedes] at hle hge
    grind
  · exact (sorted_perm counts).trans (hperm.trans (sorted_perm counts').symm)

/-- The configured entry for a table whose key is the greatest in the order of bytes gives the
count. -/
def ConfiguredGreatest (configured : List (String × Nat)) (name : String) (rows : Nat) : Prop :=
  ∃ key, (key, rows) ∈ configured ∧ Text.lower key = Text.lower name ∧
    ∀ other ∈ configured, Text.lower other.1 = Text.lower name → Text.bytes other.1 ≤ Text.bytes key

/-- Of the configured counts for a table, the one with the greatest key is set last. -/
theorem last?_sorted_eq_some_iff {configured : List (String × Nat)}
    (hkeys : (configured.map Prod.fst).Nodup) {name : String} {rows : Nat} :
    last? (sorted configured) name = some rows ↔ ConfiguredGreatest configured name rows := by
  -- What is set last has a greatest key, since only other tables follow it.
  have hgreatest {rows : Nat} (hlast : last? (sorted configured) name = some rows) :
      ConfiguredGreatest configured name rows := by
    obtain ⟨before, key, after, hsorted, hkey, hafter⟩ := last?_eq_some_iff.mp hlast
    have hmem (entry : String × Nat) : entry ∈ configured ↔
        entry ∈ before ++ (key, rows) :: after := by
      rw [← hsorted, (sorted_perm configured).mem_iff]
    refine ⟨key, (hmem _).mpr (by simp), hkey, fun other hother hname => ?_⟩
    rw [Text.bytes_le_iff]
    rcases List.mem_append.mp ((hmem other).mp hother) with hbefore | hrest
    · have hpairs := hsorted ▸ sorted_pairwise configured
      have hprecedes := (List.pairwise_append.mp hpairs).2.2 other hbefore _ List.mem_cons_self
      exact hprecedes.elim le_of_lt fun heq => heq.1.le
    · rcases List.mem_cons.mp hrest with rfl | hlater
      · exact le_refl _
      · exact absurd hname (hafter other hlater)
  refine ⟨hgreatest, ?_⟩
  rintro ⟨key, hmem, hkey, hleast⟩
  cases hlast : last? (sorted configured) name with
  | none =>
      exact absurd hkey (last?_eq_none_iff.mp hlast (key, rows)
        ((sorted_perm configured).mem_iff.mpr hmem))
  | some rows' =>
      -- Both keys are greatest, and a key has one count only.
      obtain ⟨key', hmem', hkey', hleast'⟩ := hgreatest hlast
      have hsame : key' = key :=
        le_antisymm (Text.bytes_le_iff.mp (hleast _ hmem' hkey'))
          (Text.bytes_le_iff.mp (hleast' _ hmem hkey))
      cases List.inj_on_of_nodup_map hkeys hmem' hmem hsame
      rfl

/-! ## Row counts of a schema -/

/-- Attaching the counts to the catalog changes nothing but row counts. A table gets the count of
the last entry for its name in some case; without one, the count of the configured entry for its
name with the greatest key in the order of bytes; and without one of these, none. It does not
matter in which order the configured counts are listed. -/
def SetsLastCounts (base : Catalog) (configured entries : List (String × Nat)) : Prop :=
  (∃ count : Table → Option Nat,
    attach base configured entries = base.mapTables (fun t => { t with rowCount := count t }) ∧
    ∀ t, (∀ rows, count t = some rows ↔ GivenLast entries t.name rows ∨
        (∀ entry ∈ entries, Text.lower entry.1 ≠ Text.lower t.name) ∧
          ConfiguredGreatest configured t.name rows) ∧
      (count t = none ↔
        ∀ entry ∈ entries ++ configured, Text.lower entry.1 ≠ Text.lower t.name)) ∧
  ∀ configured', configured'.Perm configured →
    attach base configured' entries = attach base configured entries

/-- The last count from the command line wins, and the configuration counts only where there is
none. -/
theorem setsLastCounts {base : Catalog} (hkeyed : base.WellKeyed) (huncounted : base.Uncounted)
    {configured : List (String × Nat)} (hkeys : (configured.map Prod.fst).Nodup)
    (entries : List (String × Nat)) : SetsLastCounts base configured entries := by
  refine ⟨⟨fun t => last? (sorted configured ++ entries) t.name, ?_, fun t => ⟨fun rows => ?_, ?_⟩⟩,
    ?_⟩
  · rw [attach, setAll_eq hkeyed, huncounted.mapTables_counted]
  · dsimp only
    rw [last?_append, Option.or_eq_some_iff, last?_eq_none_iff, last?_sorted_eq_some_iff hkeys,
      last?_eq_some_iff]
  · simp only [last?_eq_none_iff, List.forall_mem_append,
      (sorted_perm configured).mem_iff, and_comm]
  · intro configured' hperm
    rw [attach, attach, sorted_eq_of_perm hperm]

/-- Attaching counts to the catalog of any schema statements sets the last count for each table and
nothing else, if the configured counts form a map; and so it is for the catalog of a schema that is
read from text. -/
theorem attach_sets_last_counts (configured entries : List (String × Nat))
    (hkeys : (configured.map Prod.fst).Nodup) :
    (∀ script : List Statement,
      SetsLastCounts (Catalog.ofStatements script) configured entries) ∧
    ∀ (d : Dialect) (schema : String) (base : Catalog), Schema.catalog d schema = .ok base →
      SetsLastCounts base configured entries := by
  have hscript (script : List Statement) :
      SetsLastCounts (Catalog.ofStatements script) configured entries :=
    setsLastCounts (Catalog.wellKeyed_ofStatements script) (Catalog.uncounted_ofStatements script)
      hkeys entries
  refine ⟨hscript, fun d schema base hschema => ?_⟩
  obtain ⟨script, rfl⟩ := Schema.exists_ofStatements hschema
  exact hscript script

def idTable (name : String) (rows : Option Nat) : Table :=
  ⟨name, rows, [⟨"id", "INT", true⟩], []⟩

/-- The tables `Users`, `orders` and `logs`, each with its row count. -/
def threeTables (users orders logs : Option Nat) : Catalog where
  entries :=
    [("users", idTable "Users" users), ("orders", idTable "orders" orders),
      ("logs", idTable "logs" logs)]
  keys_nodup := by
    simp only [List.map_cons, List.map_nil]
    decide

def threeTablesText : String :=
  "CREATE TABLE Users(id INT); CREATE TABLE orders(id INT); CREATE TABLE logs(id INT)"

theorem catalog_threeTablesText :
    Schema.catalog .generic threeTablesText = .ok (threeTables none none none) := by
  apply eq_ok_of_toOption
  decide +kernel

/-- Counts for `Users`, for `orders` under two keys, and for an unknown table. -/
def configuredCounts : List (String × Nat) :=
  [("orders", 7), ("USERS", 5), ("ORDERS", 8), ("ghost", 3)]

/-- `Users` has the count of the last entry, `orders` that of the greater of its two keys and `logs`
none, in whatever order the configuration is listed. -/
theorem attach_sets_last_counts_three :
    Schema.catalog .generic threeTablesText = .ok (threeTables none none none) ∧
    (configuredCounts.map Prod.fst).Nodup ∧
    attach (threeTables none none none) configuredCounts [("users", 1), ("uSERS", 2)] =
      threeTables (some 2) (some 7) none ∧
    attach (threeTables none none none) configuredCounts.reverse [("users", 1), ("uSERS", 2)] =
      threeTables (some 2) (some 7) none := by
  have hkeys : (configuredCounts.map Prod.fst).Nodup := by decide
  obtain ⟨⟨count, hattach, hcount⟩, hperm⟩ :=
    (attach_sets_last_counts configuredCounts [("users", 1), ("uSERS", 2)] hkeys).2 .generic
      threeTablesText _ catalog_threeTablesText
  have husers : count (idTable "Users" none) = some 2 :=
    ((hcount _).1 2).mpr (Or.inl ⟨[("users", 1)], "uSERS", [], rfl, by decide +kernel, by simp⟩)
  have horders : count (idTable "orders" none) = some 7 :=
    ((hcount _).1 7).mpr (Or.inr ⟨by decide +kernel, "orders", by decide, rfl, by decide +kernel⟩)
  have hlogs : count (idTable "logs" none) = none := (hcount _).2.mpr (by decide +kernel)
  have hthree : attach (threeTables none none none) configuredCounts [("users", 1), ("uSERS", 2)] =
      threeTables (some 2) (some 7) none := by
    rw [hattach]
    simp only [Catalog.mapTables, threeTables, List.map_cons, List.map_nil, husers, horders, hlogs]
    rfl
  exact ⟨catalog_threeTablesText, hkeys, hthree, (hperm _ (List.reverse_perm _)).trans hthree⟩

end RowCounts

end SqlAudit
