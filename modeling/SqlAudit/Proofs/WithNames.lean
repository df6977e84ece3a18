import SqlAudit.Proofs.LeafPlaces
import SqlAudit.Proofs.ScannedTables

/-! # Names bound by `WITH`

A `WITH` clause gives names to queries, and a block of the query level may list such a name in its
FROM list. The rule on full scans does not tell it from the name of a table: it looks the name up in
the catalog, and where a large table has the name, the block is taken to read that table. Inside a
parenthesised join the rule looks at no name, bound or not.

The blocks that the rule looks at are those outside the clauses that order and page rows, so what is
said of a name is said of each place where it stands.
-/

namespace SqlAudit

/-! ## Blocks by place -/

/-- The slots between a query level and the blocks that its body is made of. -/
def Slot.isBodySide : Slot → Bool
  | .body | .block | .inner | .left | .right => true
  | _ => false

theorem Slot.isPaging_of_isBodySide {slot : Slot} (hslot : slot.isBodySide = true) :
    slot.isPaging = false := by
  cases slot <;> simp_all [isBodySide, isPaging]

/-- The way leads from the query level to a block of its body: the body itself, or a branch of its
set operations. Parentheses around a branch are left aside. -/
structure Query.BlockAt (q : Query) (way : Place) (block : Select) : Prop where
  reaches : Reaches (.query q) way (.select block)
  inBody : ∀ slot ∈ way, slot.isBodySide = true

/-- The blocks of a level stand outside paging clauses exactly if the level does. -/
theorem Query.BlockAt.outsidePaging_iff {q : Query} {place way : Place} {block : Select}
    (hblock : q.BlockAt way block) : (place ++ way).OutsidePaging ↔ place.OutsidePaging := by
  have hway : way.OutsidePaging :=
    fun slot hslot => Slot.isPaging_of_isBodySide (hblock.inBody slot hslot)
  rw [Place.OutsidePaging, List.forall_mem_append]
  exact and_iff_left hway

/-- The walk lists the blocks outside paging clauses, in the order of their places. -/
theorem Statement.exists_enumerates_selects (s : Statement) :
    ∃ visits, Enumerates (fun a b => a.key < b.key) visits s.selects
      (fun place block => Walked (.statement s) place (.select block)) := by
  obtain ⟨visits, hvisits⟩ := exists_records (.statement s)
  have hnodes : Enumerates (fun a b => a.key < b.key) visits s.nodes (Walked (.statement s)) :=
    ⟨hvisits.nodes_eq, hvisits.mem_iff, hvisits.inOrder⟩
  refine ⟨_, (hnodes.filterMap _).congr rfl fun place block => ?_⟩
  constructor
  · rintro ⟨node, hnode, hselect⟩
    cases node with
    | select other =>
        obtain rfl : other = block := Option.some.inj hselect
        exact hnode
    | query q => cases hselect
  · intro hblock
    exact ⟨.select block, hblock, rfl⟩

/-! ## Single names -/

theorem Context.table?_single (ctx : Context) (name : String) :
    ctx.table? ⟨[name]⟩ = ctx.catalog.find? name := by
  rw [Context.table?]
  rfl

/-- The table that the catalog has under the name in some case, if it is large. -/
def Context.largeNamed (ctx : Context) (name : String) : List (String × Nat) :=
  ((ctx.catalog.find? name).bind (Table.large ctx.settings.thresholds.smallTableRows)).toList

/-- There is no large table of a name if the catalog has none or its count is unknown or small. -/
theorem Context.largeNamed_eq_nil_iff {ctx : Context} {name : String} :
    ctx.largeNamed name = [] ↔
      ∀ t, ctx.catalog.find? name = some t → ∀ rows, t.rowCount = some rows →
        rows ≤ ctx.settings.thresholds.smallTableRows := by
  rw [largeNamed, Option.toList_eq_nil_iff]
  cases ctx.catalog.find? name with
  | none => simp
  | some t => simp [Table.large, Option.filter_eq_none_iff]

/-- What the rule takes a listed relation for, if the relation is a name that is bound or a
parenthesised join with the name inside. -/
def Context.takenFor (ctx : Context) (listed : Relation) (bound : String) : List (String × Nat) :=
  if listed.isLeaf then ctx.largeNamed bound else []

/-- A listed relation of a bound name is taken for the table of the name, and a parenthesised join
with the name inside for none. -/
theorem Relation.scanned_eq_takenFor {ctx : Context} {listed : Relation} {name bound : String}
    {aliasName : Option String} (hinside : .table ⟨[name]⟩ aliasName ∈ listed.leaves)
    (hname : Text.lower name = Text.lower bound) :
    listed.scanned ctx = ctx.takenFor listed bound := by
  cases listed with
  | nested item => rfl
  | table other otherAlias =>
      obtain ⟨rfl, rfl⟩ := Relation.table.inj (List.mem_singleton.mp hinside)
      have hfind : ctx.catalog.find? name = ctx.catalog.find? bound := by
        rw [Catalog.find?, Catalog.find?, hname]
      rw [Relation.scanned, Relation.known, ctx.table?_single, hfind, Option.bind_map]
      rfl
  | derived q otherAlias | function other otherAlias => cases List.mem_singleton.mp hinside

/-- A name that a `WITH` clause binds is looked up in the catalog. The rule answers for the blocks
outside paging clauses, and so for the blocks of a query level exactly if the level stands outside
them. Among the tables that such a block is taken to read, a listed relation of the name stands for
the large table that the catalog has under the name, and for none if the table is unknown, has no
known number of rows or is not large; a relation of the name inside a parenthesised join stands for
none. A block without `WHERE` gets a finding for each of these tables, and a block with a `WHERE`
one finding that names them all, if there are any and a condition makes an index useless. -/
theorem fullScan_reads_bound_names_from_catalog (ctx : Context) :
    ∃ visits : List (Place × Select),
      visits.Pairwise (fun a b => a.1.Before b.1) ∧
      (∀ place block, (place, block) ∈ visits ↔
        Reaches (.statement ctx.statement) place (.select block) ∧ place.OutsidePaging) ∧
      Rules.fullScan.evaluate ctx =
        some (visits.flatMap fun visit =>
          (Rules.fullScanOf ctx visit.2).map Rules.fullScanInfo.finding) ∧
      ∀ place q, Reaches (.statement ctx.statement) place (.query q) →
        ∀ way block, q.BlockAt way block →
          ((place ++ way, block) ∈ visits ↔ place.OutsidePaging) ∧
          ∀ cte ∈ q.ctes, ∀ before listed after name aliasName,
            block.fromItems.flatMap Rules.listedRelations = before ++ listed :: after →
            .table ⟨[name]⟩ aliasName ∈ listed.leaves →
            Text.lower name = Text.lower cte.name →
            (ctx.largeNamed cte.name = [] ↔
              ∀ t, ctx.catalog.find? cte.name = some t → ∀ rows, t.rowCount = some rows →
                rows ≤ ctx.settings.thresholds.smallTableRows) ∧
            Rules.scanCandidates ctx block =
              before.flatMap (Relation.scanned ctx) ++
                (ctx.takenFor listed cte.name ++ after.flatMap (Relation.scanned ctx)) ∧
            (block.filter = none →
              Rules.fullScanOf ctx block =
                (before.flatMap (Relation.scanned ctx)).map Rules.wholeReadRemark ++
                  ((ctx.takenFor listed cte.name).map Rules.wholeReadRemark ++
                    (after.flatMap (Relation.scanned ctx)).map Rules.wholeReadRemark)) ∧
            ∀ filter, block.filter = some filter →
              Rules.fullScanOf ctx block =
                if Rules.scanCandidates ctx block = [] then []
                else (Rules.scanShape filter).toList.map
                  (Rules.scanShapeRemark ((Rules.scanCandidates ctx block).map Prod.fst)) := by
  obtain ⟨visits, hvisits⟩ := ctx.statement.exists_enumerates_selects
  refine ⟨visits, hvisits.inOrder, hvisits.mem_iff, ?_, fun place q hq way block hblock => ⟨?_, ?_⟩⟩
  · rw [Rules.fullScan_evaluate, ← hvisits.listed_eq, List.flatMap_map]
  · rw [hvisits.mem_iff, Walked, hblock.outsidePaging_iff]
    exact and_iff_right (hq.trans hblock.reaches)
  · intro cte _ before listed after name aliasName hlisted hinside hname
    have hcandidates := Rules.scanCandidates_eq ctx block
    rw [hlisted, List.flatMap_append, List.flatMap_cons,
      Relation.scanned_eq_takenFor hinside hname] at hcandidates
    refine ⟨Context.largeNamed_eq_nil_iff, hcandidates, fun hfilter => ?_,
      fun filter hfilter => Rules.fullScanOf_of_filter hfilter⟩
    rw [Rules.fullScanOf_of_no_filter hfilter, hcandidates, List.map_append, List.map_append]

/-! ## A table of the same name -/

/-- The query that the name `t` is bound to, `SELECT a FROM u`. -/
def boundQuery : Cte :=
  ⟨"t", ⟨[], .select (columnOf [⟨.table ⟨["u"]⟩ none, []⟩]), [], none, none⟩⟩

/-- `SELECT a FROM (u JOIN T)`. -/
def parenthesisedBound : Select :=
  columnOf [⟨.nested ⟨.table ⟨["u"]⟩ none, [⟨.table ⟨["T"]⟩ none, none⟩]⟩, []⟩]

/-- `SELECT a FROM u JOIN T WHERE a <> 1`. -/
def filteredBound : Select :=
  { columnOf [⟨.table ⟨["u"]⟩ none, [⟨.table ⟨["T"]⟩ none, none⟩]⟩] with
    filter := some (.binary (.column ⟨none, "a"⟩) .notEq (.literal (.number "1"))) }

/-- `WITH t AS (SELECT a FROM u) SELECT a FROM (u JOIN T)
UNION SELECT a FROM u JOIN T WHERE a <> 1`. -/
def unionWithBound : Query :=
  ⟨[boundQuery], .setOperation .union false (.select parenthesisedBound) (.select filteredBound),
    [], none, none⟩

theorem unionWithBound_blockAt_left :
    unionWithBound.BlockAt [.body, .left, .block] parenthesisedBound :=
  ⟨.inside List.mem_cons_self (.inside List.mem_cons_self (.inside List.mem_cons_self (.here _))),
    by decide⟩

theorem unionWithBound_blockAt_right :
    unionWithBound.BlockAt [.body, .right, .block] filteredBound :=
  ⟨.inside List.mem_cons_self (.inside (List.mem_cons_of_mem _ List.mem_cons_self)
    (.inside List.mem_cons_self (.here _))), by decide⟩

/-- With a large table `t` in the catalog, the left branch is taken to read no table and the right
branch to read `t`. -/
theorem fullScan_reads_bound_names_from_catalog_union :
    Reaches (.statement (.query unionWithBound)) [.source] (.query unionWithBound) ∧
    boundQuery ∈ unionWithBound.ctes ∧
    unionWithBound.BlockAt [.body, .left, .block] parenthesisedBound ∧
    unionWithBound.BlockAt [.body, .right, .block] filteredBound ∧
    Rules.scanCandidates ⟨.query unionWithBound, hundredRows, {}⟩ parenthesisedBound = [] ∧
    Rules.fullScanOf ⟨.query unionWithBound, hundredRows, {}⟩ filteredBound =
      [Rules.scanShapeRemark ["t"] "a not-equal comparison `a <> 1`"] := by
  have hq : Reaches (.statement (.query unionWithBound)) [.source] (.query unionWithBound) :=
    .inside List.mem_cons_self (.here _)
  have hcte : boundQuery ∈ unionWithBound.ctes := List.mem_cons_self
  obtain ⟨visits, -, -, -, hlevels⟩ :=
    fullScan_reads_bound_names_from_catalog ⟨.query unionWithBound, hundredRows, {}⟩
  have hlevel := hlevels _ _ hq
  refine ⟨hq, hcte, unionWithBound_blockAt_left, unionWithBound_blockAt_right, ?_, ?_⟩
  · obtain ⟨-, hcandidates, -⟩ := (hlevel _ _ unionWithBound_blockAt_left).2 boundQuery hcte
      [] _ [] "T" none rfl (List.mem_cons_of_mem _ List.mem_cons_self) (by decide +kernel)
    rw [hcandidates]
    rfl
  · obtain ⟨-, -, -, hfiltered⟩ := (hlevel _ _ unionWithBound_blockAt_right).2 boundQuery hcte
      [.table ⟨["u"]⟩ none] _ [] "T" none rfl List.mem_cons_self (by decide +kernel)
    rw [hfiltered _ rfl]
    decide +kernel

/-- In `WITH t AS (SELECT a FROM u) SELECT a FROM t` the bound name is taken for the large table
`t`. -/
theorem bound_name_taken_for_table :
    ∃ (ctx : Context) (place way : Place) (q : Query) (cte : Cte) (block : Select) (name : String),
      Reaches (.statement ctx.statement) place (.query q) ∧ cte ∈ q.ctes ∧ q.BlockAt way block ∧
      block.fromItems.flatMap Rules.listedRelations = [.table ⟨[name]⟩ none] ∧
      Text.lower name = Text.lower cte.name ∧
      Rules.fullScan.evaluate ctx =
        some [⟨"full-scan", .critical,
          "Query reads every row of `t` (~100 rows) because it has no " ++
          "WHERE clause; add a selective condition on an indexed column"⟩] := by
  let block := columnOf [⟨.table ⟨["t"]⟩ none, []⟩]
  let q : Query := ⟨[boundQuery], .select block, [], none, none⟩
  refine ⟨⟨.query q, hundredRows, {}⟩, [.source], [.body, .block], q, boundQuery, block, "t",
    .inside List.mem_cons_self (.here _), List.mem_cons_self,
    ⟨.inside List.mem_cons_self (.inside List.mem_cons_self (.here _)), by decide⟩, rfl, rfl, ?_⟩
  decide +kernel

end SqlAudit
