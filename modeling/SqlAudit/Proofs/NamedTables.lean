import SqlAudit.Proofs.Ranking
import SqlAudit.Proofs.WalkCoverage

/-! # Tables a statement names

The review asks the catalog for tables in three places: for the relations a block lists, for the
leaves of the FROM lists that predicates refer to, and for the target of an `ALTER TABLE`. Every
table it asks for is one that the statement names, so two catalogs that agree on these tables give
the same report.
-/

namespace SqlAudit

/-- The statement names the table: as a relation at any place, or as the target of an `ALTER TABLE`.
-/
def Statement.Names (s : Statement) (name : ObjectName) : Prop :=
  (∃ place aliasName, Reaches (.statement s) place (.relation (.table name aliasName))) ∨
    ∃ operations, s = .alterTable ⟨name, operations⟩

/-! ## The relations of a FROM list -/

/-- The leaves of a FROM list are those of the relations it lists. -/
theorem FromItem.leavesAll_eq (items : List FromItem) :
    FromItem.leavesAll items = (items.flatMap Rules.listedRelations).flatMap Relation.leaves := by
  rw [FromItem.leavesAll, List.flatMap_assoc]
  refine List.flatMap_congr fun item _ => ?_
  obtain ⟨relation, joins⟩ := item
  rw [FromItem.leaves, Join.leavesAll_eq, Rules.listedRelations, List.flatMap_cons,
    List.flatMap_map]

/-- A listed relation stands behind a clause of the FROM list. -/
theorem exists_clause_of_mem_listed {items : List FromItem} {relation : Relation}
    (hlisted : relation ∈ items.flatMap Rules.listedRelations) :
    ∃ slot, (slot, Part.relation relation) ∈ fromClauses items := by
  obtain ⟨item, hitem, hlisted⟩ := List.mem_flatMap.mp hlisted
  obtain ⟨i, hi⟩ := List.mem_iff_getElem?.mp hitem
  rcases List.mem_cons.mp hlisted with rfl | hjoined
  · exact ⟨.relation i, mem_fromClauses.mpr (Or.inl ⟨i, item, hi, rfl⟩)⟩
  · obtain ⟨join, hjoin, rfl⟩ := List.mem_map.mp hjoined
    obtain ⟨j, hj⟩ := List.mem_iff_getElem?.mp hjoin
    exact ⟨.joined i j, mem_fromClauses.mpr (Or.inr ⟨i, item, hi, j, join, hj, Or.inl rfl⟩)⟩

/-- The part has the FROM list among its clauses. -/
def Part.ReadsFrom (p : Part) (items : List FromItem) : Prop :=
  ∀ clause ∈ fromClauses items, clause ∈ p.clauses

/-- Every leaf of a FROM list stands at some place below the part that has the list. -/
theorem Part.ReadsFrom.exists_reaches_leaf {p : Part} {items : List FromItem}
    (hfrom : p.ReadsFrom items) {leaf : Relation} (hleaf : leaf ∈ FromItem.leavesAll items) :
    ∃ place, Reaches p place (.relation leaf) := by
  -- The induction goes into parenthesised joins, which have a FROM list of one entry.
  induction p using Part.induction generalizing items with
  | step p ih =>
      rw [FromItem.leavesAll_eq] at hleaf
      obtain ⟨relation, hlisted, hleaf⟩ := List.mem_flatMap.mp hleaf
      obtain ⟨slot, hclause⟩ := exists_clause_of_mem_listed hlisted
      have hbelow : ∃ place, Reaches (.relation relation) place (.relation leaf) := by
        cases relation with
        | nested item =>
            have hinner : (Part.relation (.nested item)).ReadsFrom [item] :=
              fun _ hclause => hclause
            refine ih slot _ (hfrom _ hclause) hinner ?_
            simpa [FromItem.leavesAll, Relation.leaves] using hleaf
        | _ => exact ⟨[], List.mem_singleton.mp hleaf ▸ .here _⟩
      obtain ⟨place, hreach⟩ := hbelow
      exact ⟨slot :: place, .inside (hfrom _ hclause) hreach⟩

/-- A statement names every table that one of its parts reads. -/
theorem Part.ReadsFrom.names_of_mem_leaves {s : Statement} {lead : Place} {p : Part}
    (hlead : Reaches (.statement s) lead p) {items : List FromItem} (hfrom : p.ReadsFrom items)
    {name : ObjectName} {aliasName : Option String}
    (hleaf : .table name aliasName ∈ FromItem.leavesAll items) : s.Names name := by
  obtain ⟨place, hreach⟩ := hfrom.exists_reaches_leaf hleaf
  exact Or.inl ⟨lead ++ place, aliasName, hlead.trans hreach⟩

/-! ## Where the review meets FROM lists -/

/-- Every block that is visited has a place in the statement. -/
theorem Statement.exists_reaches_of_mem_selects {s : Statement} {block : Select}
    (hblock : block ∈ s.selects) : ∃ place, Reaches (.statement s) place (.select block) := by
  have hnode : Node.select block ∈ (Part.statement s).nodes := by
    obtain ⟨node, hnode, heq⟩ := List.mem_filterMap.mp hblock
    cases node with
    | query q => cases heq
    | select other =>
        cases heq
        exact hnode
  obtain ⟨place, hreach, -⟩ := mem_nodes_iff.mp hnode
  exact ⟨place, hreach⟩

theorem Part.select_readsFrom (block : Select) : (Part.select block).ReadsFrom block.fromItems :=
  fun _ hclause => List.mem_append_left _ hclause

/-- The FROM list that a predicate refers to belongs to a part of the statement. -/
theorem Statement.exists_readsFrom_of_mem_predicates {s : Statement} {p : Predicate}
    (hp : p ∈ s.predicates) :
    ∃ place part, Reaches (.statement s) place part ∧ part.ReadsFrom p.owner.fromItems := by
  rcases List.mem_append.mp hp with hown | hnested
  · refine ⟨[], .statement s, .here _, fun clause hclause => ?_⟩
    cases s with
    | update change =>
        obtain ⟨e, -, rfl⟩ := List.mem_map.mp hown
        exact List.mem_append_left _ hclause
    | delete change =>
        obtain ⟨e, -, rfl⟩ := List.mem_map.mp hown
        exact List.mem_append_left _ hclause
    | _ => cases hown
  · obtain ⟨block, hblock, hp⟩ := List.mem_flatMap.mp hnested
    obtain ⟨place, hreach⟩ := Statement.exists_reaches_of_mem_selects hblock
    have howner : p.owner = .select block := by
      simp only [Select.predicates, List.mem_append, List.mem_map] at hp
      rcases hp with ⟨e, -, rfl⟩ | ⟨e, -, rfl⟩ | ⟨e, -, rfl⟩ <;> rfl
    rw [howner]
    exact ⟨place, .select block, hreach, Part.select_readsFrom block⟩

/-! ## Reports -/

section Agreement

variable {s : Statement} {settings : Settings} {catalog catalog' : Catalog}
  (hagree : ∀ name, s.Names name → catalog.find? name.base = catalog'.find? name.base)

include hagree

/-- The catalogs give the same answer for a name in the statement. -/
theorem table?_eq_of_names {name : ObjectName} (hname : s.Names name) :
    Context.table? ⟨s, catalog, settings⟩ name = Context.table? ⟨s, catalog', settings⟩ name := by
  simp only [Context.table?, hagree name hname]

theorem alteredTable_eq_of_names :
    Rules.alteredTable ⟨s, catalog, settings⟩ = Rules.alteredTable ⟨s, catalog', settings⟩ := by
  cases s with
  | alterTable change =>
      simp only [Rules.alteredTable, table?_eq_of_names hagree (Or.inr ⟨change.operations, rfl⟩)]
  | _ => rfl

theorem scanCandidates_eq_of_names {block : Select} (hblock : block ∈ s.selects) :
    Rules.scanCandidates ⟨s, catalog, settings⟩ block =
      Rules.scanCandidates ⟨s, catalog', settings⟩ block := by
  obtain ⟨place, hreach⟩ := Statement.exists_reaches_of_mem_selects hblock
  rw [Rules.scanCandidates, Rules.scanCandidates]
  refine congrArg (List.filter _) (List.filterMap_congr fun relation hlisted => ?_)
  cases relation with
  | table name aliasName =>
      -- A listed table is a leaf of its own.
      have hleaf : .table name aliasName ∈ FromItem.leavesAll block.fromItems := by
        rw [FromItem.leavesAll_eq]
        exact List.mem_flatMap.mpr ⟨_, hlisted, List.mem_singleton_self _⟩
      simp only [table?_eq_of_names hagree
        ((Part.select_readsFrom block).names_of_mem_leaves hreach hleaf)]
  | _ => rfl

/-- The scope of a predicate is made of tables that the statement names. -/
theorem scope_eq_of_names {p : Predicate} (hp : p ∈ s.predicates) :
    Scope.ofFrom ⟨s, catalog, settings⟩ p.owner.fromItems =
      Scope.ofFrom ⟨s, catalog', settings⟩ p.owner.fromItems := by
  obtain ⟨place, part, hreach, hfrom⟩ := Statement.exists_readsFrom_of_mem_predicates hp
  refine Scope.ofFrom_congr_of_leaves fun name aliasName hleaf => ?_
  exact table?_eq_of_names hagree (hfrom.names_of_mem_leaves hreach hleaf)

end Agreement

/-- Catalogs for which the rules answer alike give the same report. -/
theorem review_eq_of_answers {rules : List Rule} {settings : Settings} {catalog catalog' : Catalog}
    {s : Statement} (hanswers : ∀ rule ∈ rules,
      rule.evaluate ⟨s, catalog, settings⟩ = rule.evaluate ⟨s, catalog', settings⟩) :
    review rules settings catalog s = review rules settings catalog' s := by
  have henabled : ∀ rule ∈ settings.enabled rules,
      rule.evaluate ⟨s, catalog, settings⟩ = rule.evaluate ⟨s, catalog', settings⟩ :=
    fun rule hrule => hanswers rule (List.mem_filter.mp hrule).1
  have hemitted :
      (settings.enabled rules).flatMap (fun r => (r.evaluate ⟨s, catalog, settings⟩).getD []) =
        (settings.enabled rules).flatMap fun r => (r.evaluate ⟨s, catalog', settings⟩).getD [] :=
    List.flatMap_congr fun rule hrule => by rw [henabled rule hrule]
  have hfailed :
      (settings.enabled rules).filter (fun r => (r.evaluate ⟨s, catalog, settings⟩).isNone) =
        (settings.enabled rules).filter fun r => (r.evaluate ⟨s, catalog', settings⟩).isNone :=
    List.filter_congr fun rule hrule => by rw [henabled rule hrule]
  simp only [review, hemitted, hfailed]

/-- A review with the built-in rules depends on the catalog only through the tables that the
statement names: two catalogs that find the same under the last parts of these names give the same
report. -/
theorem review_eq_of_named_tables (s : Statement) (settings : Settings) (catalog catalog' : Catalog)
    (hagree : ∀ name, s.Names name → catalog.find? name.base = catalog'.find? name.base) :
    review Rules.builtin settings catalog s = review Rules.builtin settings catalog' s := by
  refine review_eq_of_answers ?_
  exact builtin_congr_of_views rfl rfl (alteredTable_eq_of_names hagree)
    (fun _ hblock => scanCandidates_eq_of_names hagree hblock)
    (fun _ hp => scope_eq_of_names hagree hp)

/-! ## A statement with two tables -/

/-- Parts closed under going through clauses hold everything that can be reached from them. -/
theorem Reaches.mem_of_closed {parts : List Part}
    (hclosed : ∀ p ∈ parts, p.clauses.map Prod.snd ⊆ parts) {p d : Part} {place : Place}
    (hreach : Reaches p place d) (hp : p ∈ parts) : d ∈ parts := by
  induction hreach with
  | here => exact hp
  | inside hclause _ ih => exact ih (hclosed _ hp (List.mem_map_of_mem hclause))

/-- `orders o JOIN shop.users u`. -/
def ordersAndUsers : FromItem :=
  ⟨.table ⟨["orders"]⟩ (some "o"), [⟨.table ⟨["shop", "users"]⟩ (some "u"), none⟩]⟩

/-- `o.id = '5'`. -/
def idIsText : Expr :=
  .binary (.column ⟨some "o", "id"⟩) .eq (.literal (.string "5"))

/-- `DELETE FROM (orders o JOIN shop.users u) WHERE o.id = '5'`. -/
def deleteFromJoin : Statement :=
  .delete ⟨[⟨.nested ordersAndUsers, []⟩], some idIsText⟩

theorem names_deleteFromJoin {name : ObjectName} (hname : deleteFromJoin.Names name) :
    name = ⟨["orders"]⟩ ∨ name = ⟨["shop", "users"]⟩ := by
  let parts : List Part := [.statement deleteFromJoin, .relation (.nested ordersAndUsers),
    .relation (.table ⟨["orders"]⟩ (some "o")), .relation (.table ⟨["shop", "users"]⟩ (some "u")),
    .expr idIsText, .expr (.column ⟨some "o", "id"⟩), .expr (.literal (.string "5"))]
  have hclosed : ∀ p ∈ parts, p.clauses.map Prod.snd ⊆ parts := by
    simp [parts, Part.clauses, Statement.clauses, Expr.clauses, fromClauses, eachClause,
      optionClause, deleteFromJoin, ordersAndUsers, idIsText]
  rcases hname with ⟨place, aliasName, hreach⟩ | ⟨operations, heq⟩
  · have hmem := hreach.mem_of_closed hclosed List.mem_cons_self
    simp only [parts, List.mem_cons, List.not_mem_nil, reduceCtorEq, Part.relation.injEq,
      Relation.table.injEq, false_or, or_false] at hmem
    exact hmem.imp And.left And.left
  · cases heq

/-- A table `Orders` with an indexed number column. -/
def ordersTable : Table :=
  ⟨"Orders", some 500, [⟨"id", "INT", false⟩], [⟨"PRIMARY", ["id"], .primaryKey⟩]⟩

/-- One catalog knows `Orders`, the other a table `audit` besides, which the statement does not
name. -/
theorem review_eq_of_named_tables_join :
    (∀ name, deleteFromJoin.Names name →
      (Catalog.empty.insert ordersTable).find? name.base =
        ((Catalog.empty.insert (.named "audit")).insert ordersTable).find? name.base) ∧
    review Rules.builtin {} (Catalog.empty.insert ordersTable) deleteFromJoin =
      review Rules.builtin {} ((Catalog.empty.insert (.named "audit")).insert ordersTable)
        deleteFromJoin := by
  have hagree : ∀ name, deleteFromJoin.Names name →
      (Catalog.empty.insert ordersTable).find? name.base =
        ((Catalog.empty.insert (.named "audit")).insert ordersTable).find? name.base := by
    intro name hname
    rcases names_deleteFromJoin hname with rfl | rfl <;> decide +kernel
  exact ⟨hagree, review_eq_of_named_tables _ _ _ _ hagree⟩

end SqlAudit
