import SqlAudit.Proofs.ColumnResolution
import SqlAudit.Proofs.NamedTables

/-! # Tables that a block reads whole

The rule on full scans goes through the relations that a block lists, whereas a scope binds the
leaves of the FROM list. The two differ in parenthesised joins: a scope binds the tables inside, and
the rule passes over them. So the rule considers all large tables in scope exactly as long as none
of them stands inside parentheses.
-/

namespace SqlAudit

/-! ## Large tables -/

/-- The name and the number of rows of a table that is known to have more rows than the limit. -/
def Table.large (limit : Nat) (t : Table) : Option (String × Nat) :=
  (t.rowCount.filter (limit < ·)).map (t.name, ·)

/-- The large tables in scope, in FROM order. -/
def Context.largeTables (ctx : Context) (items : List FromItem) : List (String × Nat) :=
  (Scope.ofFrom ctx items).tables.filterMap (Table.large ctx.settings.thresholds.smallTableRows)

/-- The large table that a relation reads, if it is a plain table by itself. -/
def Relation.scanned (ctx : Context) (relation : Relation) : List (String × Nat) :=
  ((relation.known ctx).bind fun known =>
    known.2.large ctx.settings.thresholds.smallTableRows).toList

/-- The large tables of a FROM list are those of its leaves. -/
theorem Context.largeTables_eq (ctx : Context) (items : List FromItem) :
    ctx.largeTables items = (FromItem.leavesAll items).flatMap (Relation.scanned ctx) := by
  rw [largeTables, Scope.tables_ofFrom, List.filterMap_filterMap, List.filterMap_eq_flatMap_toList]
  refine List.flatMap_congr fun leaf _ => ?_
  rw [Option.bind_map]
  rfl

/-- The rule looks at the listed relations one by one. -/
theorem Rules.scanCandidates_eq (ctx : Context) (block : Select) :
    scanCandidates ctx block =
      (block.fromItems.flatMap listedRelations).flatMap (Relation.scanned ctx) := by
  rw [scanCandidates, List.filter_filterMap, List.filterMap_eq_flatMap_toList]
  refine List.flatMap_congr fun relation _ => congrArg Option.toList ?_
  cases relation with
  | table name aliasName =>
      simp only [Relation.known, Table.large]
      cases ctx.table? name with
      | none => rfl
      | some t => simp [Option.filter_map, Function.comp_def]
  | _ => rfl

/-! ## Listed relations and leaves -/

theorem Relation.flatMap_leaves_nested (ctx : Context) (item : FromItem) :
    (Relation.nested item).leaves.flatMap (Relation.scanned ctx) = ctx.largeTables [item] := by
  simp [Relation.leaves, Context.largeTables_eq, FromItem.leavesAll]

/-- A listed relation gives at most the large tables that it is made of. -/
theorem Relation.scanned_sublist (ctx : Context) (relation : Relation) :
    (relation.scanned ctx).Sublist (relation.leaves.flatMap (Relation.scanned ctx)) := by
  cases relation with
  | nested item => exact List.nil_sublist _
  | _ => simp [Relation.leaves]

/-- The rule misses nothing in a relation, unless the relation is a parenthesised join with a large
table. -/
theorem Relation.scanned_eq_iff {ctx : Context} {relation : Relation} :
    relation.scanned ctx = relation.leaves.flatMap (Relation.scanned ctx) ↔
      ∀ item, relation = .nested item → ctx.largeTables [item] = [] := by
  cases relation with
  | nested item =>
      have hnone : (Relation.nested item).scanned ctx = [] := rfl
      simp only [Relation.flatMap_leaves_nested, hnone, Relation.nested.injEq, forall_eq']
      exact eq_comm
  | _ => simp [Relation.leaves]

/-- Chunks that are sublists of other chunks give the same list only if they are all the same. -/
theorem flatMap_eq_flatMap_iff_of_sublist {α β : Type} {g h : α → List β} {l : List α}
    (hsublist : ∀ x ∈ l, (g x).Sublist (h x)) : l.flatMap g = l.flatMap h ↔ ∀ x ∈ l, g x = h x := by
  refine ⟨fun heq => ?_, List.flatMap_congr⟩
  induction l with
  | nil => simp
  | cons x rest ih =>
      obtain ⟨hfirst, hlater⟩ := List.forall_mem_cons.mp hsublist
      rw [List.flatMap_cons, List.flatMap_cons] at heq
      -- Neither part is longer on the left, so both have the same length on both sides.
      have hrest := (List.Sublist.flatMap_right rest hlater).length_le
      have hlength := congrArg List.length heq
      rw [List.length_append, List.length_append] at hlength
      have hx : g x = h x := hfirst.eq_of_length (by have := hfirst.length_le; omega)
      rw [hx] at heq
      exact List.forall_mem_cons.mpr ⟨hx, ih hlater (List.append_cancel_left heq)⟩

/-- The leaves of a FROM list, grouped by the listed relations. -/
theorem Context.largeTables_eq_listed (ctx : Context) (items : List FromItem) :
    ctx.largeTables items = (items.flatMap Rules.listedRelations).flatMap
      fun relation => relation.leaves.flatMap (Relation.scanned ctx) := by
  rw [largeTables_eq, FromItem.leavesAll_eq, List.flatMap_assoc]

/-! ## The rule -/

namespace Rules

/-- A block without `WHERE` gets one remark for each candidate. -/
theorem fullScanOf_of_no_filter {ctx : Context} {block : Select} (hfilter : block.filter = none) :
    fullScanOf ctx block = (scanCandidates ctx block).map wholeReadRemark := by
  rw [fullScanOf, hfilter]
  cases scanCandidates ctx block <;> rfl

/-- A block with a `WHERE` gets a remark on its candidates together, if a condition makes an index
useless. -/
theorem fullScanOf_of_filter {ctx : Context} {block : Select} {filter : Expr}
    (hfilter : block.filter = some filter) :
    fullScanOf ctx block =
      if scanCandidates ctx block = [] then []
      else (scanShape filter).toList.map
        (scanShapeRemark ((scanCandidates ctx block).map Prod.fst)) := by
  rw [fullScanOf, hfilter]
  cases scanCandidates ctx block with
  | nil => rfl
  | cons candidate rest => cases hshape : scanShape filter <;> simp [hshape]

theorem fullScan_evaluate (ctx : Context) :
    fullScan.evaluate ctx =
      some (ctx.statement.selects.flatMap fun block =>
        (fullScanOf ctx block).map fullScanInfo.finding) :=
  congrArg some List.map_flatMap

/-- Every candidate is a large table of the FROM list. -/
theorem scanCandidates_sublist_largeTables (ctx : Context) (block : Select) :
    (scanCandidates ctx block).Sublist (ctx.largeTables block.fromItems) := by
  rw [scanCandidates_eq, ctx.largeTables_eq_listed]
  exact List.Sublist.flatMap_right _ fun relation _ => relation.scanned_sublist ctx

/-- Large tables are missed exactly if they stand in parentheses. -/
theorem scanCandidates_eq_largeTables_iff (ctx : Context) (block : Select) :
    scanCandidates ctx block = ctx.largeTables block.fromItems ↔
      ∀ item, .nested item ∈ block.fromItems.flatMap listedRelations →
        ctx.largeTables [item] = [] := by
  rw [scanCandidates_eq, ctx.largeTables_eq_listed,
    flatMap_eq_flatMap_iff_of_sublist fun relation _ => relation.scanned_sublist ctx]
  simp only [Relation.scanned_eq_iff]
  constructor
  · intro hall item hlisted
    exact hall _ hlisted item rfl
  · rintro hall _ hlisted item rfl
    exact hall item hlisted

/-- The rule answers block by block. In a block it considers the large tables among the listed
relations, in FROM order. These are all large tables in scope exactly when no parenthesised join of
the block reads one; only then does a block without `WHERE` get one finding for each large table in
scope. -/
theorem fullScan_considers_scope_iff (ctx : Context) :
    fullScan.evaluate ctx =
      some (ctx.statement.selects.flatMap fun block =>
        (fullScanOf ctx block).map fullScanInfo.finding) ∧
    ∀ block : Select,
      (scanCandidates ctx block).Sublist (ctx.largeTables block.fromItems) ∧
      (scanCandidates ctx block = ctx.largeTables block.fromItems ↔
        ∀ item, .nested item ∈ block.fromItems.flatMap listedRelations →
          ctx.largeTables [item] = []) ∧
      (block.filter = none →
        (fullScanOf ctx block = (ctx.largeTables block.fromItems).map wholeReadRemark ↔
          ∀ item, .nested item ∈ block.fromItems.flatMap listedRelations →
            ctx.largeTables [item] = [])) := by
  refine ⟨fullScan_evaluate ctx, fun block => ?_⟩
  have hsublist := scanCandidates_sublist_largeTables ctx block
  have hiff := scanCandidates_eq_largeTables_iff ctx block
  refine ⟨hsublist, hiff, fun hfilter => ?_⟩
  rw [fullScanOf_of_no_filter hfilter, ← hiff]
  constructor
  · intro hremarks
    -- As many remarks as large tables leave none of the tables out.
    have hlength := congrArg List.length hremarks
    rw [List.length_map, List.length_map] at hlength
    exact hsublist.eq_of_length hlength
  · intro hall
    rw [hall]

end Rules

/-! ## Joins in parentheses -/

/-- A catalog whose only table `t` has a hundred rows. -/
def hundredRows : Catalog :=
  Catalog.empty.insert { Table.named "t" with rowCount := some 100 }

/-- `SELECT a FROM items`. -/
def columnOf (items : List FromItem) : Select :=
  ⟨false, [.expr (.column ⟨none, "a"⟩) none], items, none, [], none⟩

/-- The review of a query that is nothing but the block. -/
def Select.contextWith (block : Select) (catalog : Catalog) : Context :=
  ⟨.query ⟨[], .select block, [], none, none⟩, catalog, {}⟩

/-- `t JOIN (u JOIN v)`, where the catalog does not know the tables in parentheses. -/
def joinWithUnknown : FromItem :=
  ⟨.table ⟨["t"]⟩ none, [⟨.nested ⟨.table ⟨["u"]⟩ none, [⟨.table ⟨["v"]⟩ none, none⟩]⟩, none⟩]⟩

theorem fullScan_considers_scope_iff_unknown :
    (columnOf [joinWithUnknown]).filter = none ∧
    Rules.fullScanOf ((columnOf [joinWithUnknown]).contextWith hundredRows)
      (columnOf [joinWithUnknown]) =
      [Rules.wholeReadRemark ("t", 100)] := by
  have hinner : ∀ item, .nested item ∈ [joinWithUnknown].flatMap Rules.listedRelations →
      ((columnOf [joinWithUnknown]).contextWith hundredRows).largeTables [item] = [] := by
    intro item hitem
    simp only [joinWithUnknown, Rules.listedRelations, List.flatMap_singleton, List.map_cons,
      List.map_nil, List.mem_cons, List.not_mem_nil, reduceCtorEq, Relation.nested.injEq, false_or,
      or_false] at hitem
    rw [hitem]
    decide +kernel
  refine ⟨rfl, ?_⟩
  rw [(((Rules.fullScan_considers_scope_iff _).2 (columnOf [joinWithUnknown])).2.2 rfl).mpr hinner]
  decide +kernel

/-- In `SELECT a FROM (t JOIN u)` the table `t` is large and in scope, and nothing is found. -/
theorem large_table_in_parentheses_not_scanned :
    ∃ (ctx : Context) (block : Select), ctx.statement.selects = [block] ∧ block.filter = none ∧
      ctx.largeTables block.fromItems = [("t", 100)] ∧ Rules.fullScan.evaluate ctx = some [] := by
  let block := columnOf [⟨.nested ⟨.table ⟨["t"]⟩ none, [⟨.table ⟨["u"]⟩ none, none⟩]⟩, []⟩]
  refine ⟨block.contextWith hundredRows, block, ?_, rfl, ?_, ?_⟩
  · rfl
  · decide +kernel
  · decide +kernel

end SqlAudit
