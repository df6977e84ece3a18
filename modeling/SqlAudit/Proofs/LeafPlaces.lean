import SqlAudit.Proofs.ColumnResolution
import SqlAudit.Proofs.JoinPredicates

/-! # Where the leaves of a FROM list stand

A FROM list is flattened three times: to count its relations, to name its plain tables, and to bind
its known tables. Each time the leaves are met from left to right, through any depth of
parenthesised joins on either side of a join. So the names and the tables of a block are those of
its leaves, and a block has as many names as relations unless some of its leaves are derived tables
or table functions, which are counted without a name.
-/

namespace SqlAudit

/-! ## Ways to leaves -/

/-- The relation is not a parenthesised join. -/
def Relation.isLeaf : Relation → Bool
  | .nested _ => false
  | _ => true

/-- The way leads from relation to relation to a leaf. It enters parenthesised joins, but no derived
table. -/
structure LeafAt (p : Part) (way : Place) (leaf : Relation) : Prop where
  reaches : Reaches p way (.relation leaf)
  joinSides : ∀ slot ∈ way, slot.isJoinSide = true
  isLeaf : leaf.isLeaf = true

theorem LeafAt.here {leaf : Relation} (hleaf : leaf.isLeaf = true) :
    LeafAt (.relation leaf) [] leaf :=
  ⟨.here _, by simp, hleaf⟩

/-- A leaf is reached from no other relation and by no way but the empty one. -/
theorem leafAt_leaf_iff {r leaf : Relation} (hr : r.isLeaf = true) {way : Place} :
    LeafAt (.relation r) way leaf ↔ way = [] ∧ leaf = r := by
  constructor
  · rintro ⟨hreach, hsides, -⟩
    cases hreach with
    | here => exact ⟨rfl, rfl⟩
    | inside hclause hrest =>
        cases r with
        | nested item => cases hr
        | derived q aliasName =>
            cases List.mem_singleton.mp hclause
            cases hsides _ List.mem_cons_self
        | table name aliasName | function name aliasName => cases hclause
  · rintro ⟨rfl, rfl⟩
    exact .here hr

/-- The leaves of a part whose joins stand in a FROM list are those behind the clauses of the list.
-/
theorem leafAt_iff {p : Part} {items : List FromItem}
    (hpart : ∀ r, p = .relation r → r.isLeaf = false)
    (hfrom : ∀ slot c, slot.isJoinSide = true →
      ((slot, c) ∈ p.clauses ↔ (slot, c) ∈ fromClauses items))
    {way : Place} {leaf : Relation} :
    LeafAt p way leaf ↔
      Behind (fun clause rest leaf => clause.1.isJoinSide = true ∧ LeafAt clause.2 rest leaf)
        (entryClauses items) way leaf := by
  constructor
  · rintro ⟨hreach, hsides, hleaf⟩
    cases hreach with
    | here => exact absurd hleaf (by simp [hpart leaf rfl])
    | inside hclause hrest =>
        obtain ⟨hslot, hsides⟩ := List.forall_mem_cons.mp hsides
        have hmem := mem_entryClauses.mpr ((hfrom _ _ hslot).mp hclause)
        exact ⟨_, _, _, hmem, rfl, hslot, hrest, hsides, hleaf⟩
  · rintro ⟨slot, c, rest, hclause, rfl, hslot, hrest⟩
    exact ⟨.inside ((hfrom _ _ hslot).mpr (mem_entryClauses.mp hclause)) hrest.reaches,
      List.forall_mem_cons.mpr ⟨hslot, hrest.joinSides⟩, hrest.isLeaf⟩

/-! ## Listing the leaves -/

def clauseLeaves : Slot × Part → List Relation
  | (_, .relation r) => r.leaves
  | _ => []

/-- The clauses of a FROM list hold its leaves, in the order of their places. -/
theorem flatMap_clauseLeaves (items : List FromItem) :
    (entryClauses items).flatMap clauseLeaves = FromItem.leavesAll items := by
  refine flatMap_eachClause ?_ items
  rintro i ⟨relation, joins⟩
  rw [FromItem.leaves, Join.leavesAll_eq, List.flatMap_cons]
  congr 1
  refine flatMap_eachClause ?_ joins
  rintro j ⟨joined, on⟩
  cases on <;> simp [optionClause, clauseLeaves]

/-- If the leaves of each relation can be enumerated, so can those of the list. -/
theorem exists_enumerates_leavesAll (items : List FromItem)
    (hrelations : ∀ slot r, (slot, .relation r) ∈ fromClauses items →
      ∃ entries, Enumerates (fun a b => a.predicateKey < b.predicateKey) entries r.leaves
        (LeafAt (.relation r))) :
    ∃ entries, Enumerates (fun a b => a.predicateKey < b.predicateKey) entries
      (FromItem.leavesAll items)
      (Behind (fun clause rest leaf => clause.1.isJoinSide = true ∧ LeafAt clause.2 rest leaf)
        (entryClauses items)) := by
  rw [← flatMap_clauseLeaves]
  refine Enumerates.exists_clauses ?_ (entryClauses_pairwise items)
  have hside {slot : Slot} {r : Relation} (hslot : slot.isJoinSide = true)
      (hclause : (slot, .relation r) ∈ fromClauses items) :
      ∃ entries, Enumerates (fun a b => a.predicateKey < b.predicateKey) entries r.leaves
        (fun rest leaf => slot.isJoinSide = true ∧ LeafAt (.relation r) rest leaf) := by
    obtain ⟨entries, hentries⟩ := hrelations slot r hclause
    exact ⟨entries, hentries.congr rfl fun _ _ => by simp [hslot]⟩
  intro clause hclause
  have hmem := mem_entryClauses.mp hclause
  rcases mem_fromClauses.mp hmem with
    ⟨i, item, -, rfl⟩ | ⟨i, item, -, j, join, -, rfl | ⟨x, -, rfl⟩⟩
  · exact hside rfl hmem
  · exact hside rfl hmem
  · -- No leaf stands in an `ON`.
    exact ⟨[], rfl, by simp [Slot.isJoinSide], List.Pairwise.nil⟩

/-- The leaves of a relation are listed from left to right, each once. -/
theorem Relation.exists_enumerates_leaves (r : Relation) :
    ∃ entries, Enumerates (fun a b => a.predicateKey < b.predicateKey) entries r.leaves
      (LeafAt (.relation r)) := by
  have hleaf {r : Relation} (hr : r.isLeaf = true) (hself : r.leaves = [r]) :
      ∃ entries, Enumerates (fun a b => a.predicateKey < b.predicateKey) entries r.leaves
        (LeafAt (.relation r)) := by
    have hone : r.leaves.length ≤ 1 := by simp [hself]
    refine ⟨_, (Enumerates.atPlace [] hone).congr rfl fun way leaf => ?_⟩
    rw [leafAt_leaf_iff hr, hself, List.mem_singleton]
  generalize hp : Part.relation r = p
  induction p using Part.induction generalizing r with
  | step p ih =>
      subst hp
      cases r with
      | nested item =>
          obtain ⟨entries, hentries⟩ := exists_enumerates_leavesAll [item]
            fun slot r hclause => ih slot _ hclause r rfl
          refine ⟨entries, hentries.congr ?_ fun _ _ => (leafAt_iff ?_ fun _ _ _ => Iff.rfl).symm⟩
          · simp [FromItem.leavesAll, Relation.leaves]
          · rintro _ ⟨⟩
            rfl
      | table name aliasName | derived q aliasName | function name aliasName => exact hleaf rfl rfl

/-- The leaves of the FROM list of a block are listed from left to right, each once. -/
theorem Select.exists_enumerates_leaves (block : Select) :
    ∃ entries, Enumerates (fun a b => a.predicateKey < b.predicateKey) entries
      (FromItem.leavesAll block.fromItems) (LeafAt (.select block)) := by
  obtain ⟨entries, hentries⟩ := exists_enumerates_leavesAll block.fromItems
    fun _ r _ => r.exists_enumerates_leaves
  refine ⟨entries, hentries.congr rfl fun _ _ => (leafAt_iff ?_ ?_).symm⟩
  · rintro _ ⟨⟩
  · exact fun _ _ hslot => Select.join_clause_iff (Or.inl hslot)

/-! ## Names and tables of leaves -/

def Relation.tableName? : Relation → Option ObjectName
  | .table name _ => some name
  | _ => none

/-- A leaf is known if it names a table of the catalog. -/
theorem Relation.known_eq (ctx : Context) (leaf : Relation) :
    (leaf.known ctx).map Prod.snd = leaf.tableName?.bind ctx.table? := by
  cases leaf with
  | table name aliasName => simp [Relation.known, Relation.tableName?]
  | _ => rfl

namespace Rules

/-- The displayed name of a plain table. -/
def leafName? (leaf : Relation) : Option String :=
  leaf.tableName?.map ObjectName.toText

/-- A leaf without a name is a derived table or a table function. -/
theorem isSome_leafName?_iff {leaf : Relation} (hleaf : leaf.isLeaf = true) :
    (leafName? leaf).isSome = true ↔
      (∀ q aliasName, leaf ≠ .derived q aliasName) ∧
        ∀ name aliasName, leaf ≠ .function name aliasName := by
  cases leaf with
  | nested item => cases hleaf
  | _ => simp [leafName?, Relation.tableName?]

mutual

theorem itemNames_eq : ∀ item : FromItem, itemNames item = item.leaves.filterMap leafName?
  | ⟨relation, joins⟩ => by
      rw [itemNames, FromItem.leaves, List.filterMap_append, relationNames_eq relation,
        joinNames_eq joins]

theorem joinNames_eq :
    ∀ joins : List Join, joinNames joins = (Join.leavesAll joins).filterMap leafName?
  | [] => rfl
  | ⟨relation, _⟩ :: rest => by
      rw [joinNames, Join.leavesAll, List.filterMap_append, relationNames_eq relation,
        joinNames_eq rest]

theorem relationNames_eq :
    ∀ relation : Relation, relationNames relation = relation.leaves.filterMap leafName?
  | .table _ _ => rfl
  | .nested item => by rw [relationNames, Relation.leaves, itemNames_eq item]
  | .derived _ _ => rfl
  | .function _ _ => rfl

end

/-- The names of a block are those of the plain tables among its leaves. -/
theorem blockNames_eq (block : Select) :
    blockNames block = (FromItem.leavesAll block.fromItems).filterMap leafName? := by
  rw [blockNames, FromItem.leavesAll, List.filterMap_flatMap]
  exact List.flatMap_congr fun item _ => itemNames_eq item

end Rules

/-- Counting, naming and binding the relations of a block go through the same leaves in the same
order: the count is the number of leaves, the names are those of the plain tables among them, and
the tables in scope are those that are found for these names. So the rule on joins never prints more
names than it counts, and it prints as many exactly if no leaf is a derived table or a table
function. -/
theorem multiJoin_counts_and_names_leaves (ctx : Context) :
    (∀ block : Select, ∃ leaves : List (Place × Relation),
      leaves.Pairwise (fun a b => Place.ListedBefore a.1 b.1) ∧
      (∀ way leaf, (way, leaf) ∈ leaves ↔ LeafAt (.select block) way leaf) ∧
      block.tableCount = leaves.length ∧
      Rules.blockNames block =
        leaves.filterMap (fun entry => entry.2.tableName?.map ObjectName.toText) ∧
      (Scope.ofFrom ctx block.fromItems).tables =
        leaves.filterMap (fun entry => entry.2.tableName?.bind ctx.table?) ∧
      (Rules.blockNames block).length ≤ block.tableCount ∧
      ((Rules.blockNames block).length = block.tableCount ↔
        ∀ entry ∈ leaves, (∀ q aliasName, entry.2 ≠ .derived q aliasName) ∧
          ∀ name aliasName, entry.2 ≠ .function name aliasName)) ∧
    Rules.multiJoin.evaluate ctx =
      some ((ctx.statement.selects.filter
        (·.tableCount > ctx.settings.thresholds.maxJoinTables)).map fun block =>
        ⟨"multi-join", .critical,
          Rules.joinRemark ctx.settings.thresholds.maxJoinTables block.tableCount
            (Rules.blockNames block)⟩) := by
  refine ⟨fun block => ?_, ?_⟩
  · obtain ⟨leaves, hleaves⟩ := block.exists_enumerates_leaves
    have hcount : block.tableCount = leaves.length := by
      rw [block.tableCount_eq, ← hleaves.listed_eq, List.length_map]
    have hnames : Rules.blockNames block = leaves.filterMap fun entry =>
        Rules.leafName? entry.2 := by
      rw [Rules.blockNames_eq, ← hleaves.listed_eq, List.filterMap_map]
      rfl
    have htables : (Scope.ofFrom ctx block.fromItems).tables =
        leaves.filterMap fun entry => entry.2.tableName?.bind ctx.table? := by
      simp only [Scope.tables_ofFrom, Relation.known_eq, ← hleaves.listed_eq, List.filterMap_map]
      rfl
    refine ⟨leaves, hleaves.inOrder, hleaves.mem_iff, hcount, hnames, htables, ?_, ?_⟩
    · rw [hnames, hcount]
      exact List.length_filterMap_le _ _
    · rw [hnames, hcount, List.filterMap_length_eq_length]
      refine forall₂_congr fun entry hentry => ?_
      exact Rules.isSome_leafName?_iff ((hleaves.mem_iff _ _).mp hentry).isLeaf
  · rw [Rules.multiJoin, Rule.ofDetails]
    simp only [List.map_map]
    rfl

end SqlAudit
