import SqlAudit.Proofs.OperandPlaces
import SqlAudit.Walk.Predicates

/-! # Where the `ON` predicates of a FROM list stand

The joins of a FROM list may be parenthesised and then stand inside the relation of another entry.
The way to an `ON` predicate goes from relation to relation and ends with the `ON` of a join. It
never enters a derived table, whose block has joins of its own. The predicates are listed entry by
entry, whereas the walk over nested queries goes through all leading relations before the joins; so
the entries have an order of their own here.
-/

namespace SqlAudit

/-! ## Ways through joins -/

namespace Slot

/-- The slots of the relations of a FROM list, leading or joined. -/
def isJoinSide : Slot → Bool
  | .relation _ | .joined _ _ => true
  | _ => false

/-- What decides the order of the predicates of a SELECT block: `WHERE`, then the FROM list entry by
entry, each join with its relation before its `ON`, then `HAVING`. Other slots lead to no predicate
of the block. -/
def predicateKey : Slot → List Nat
  | .filter => [0]
  | .relation i => [1, i, 0]
  | .joined i j => [1, i, 1, j, 0]
  | .on i j => [1, i, 1, j, 1]
  | .having => [2]
  | _ => [3]

end Slot

/-- The order of the ways from a SELECT block to its predicates. -/
def Place.ListedBefore : Place → Place → Prop :=
  List.Lex fun a b => a.predicateKey < b.predicateKey

/-- The way leads from relation to relation to the `ON` of a join. -/
def Place.IsOnWay (way : Place) : Prop :=
  ∃ sides i j, way = sides ++ [.on i j] ∧ ∀ slot ∈ sides, slot.isJoinSide = true

namespace Place

theorem not_isOnWay_nil : ¬ IsOnWay [] := by
  rintro ⟨sides, i, j, heq, -⟩
  simp at heq

/-- A way to an `ON` predicate goes through joined relations and ends at `ON`. -/
theorem isOnWay_cons {slot : Slot} {rest : Place} :
    IsOnWay (slot :: rest) ↔
      (rest = [] ∧ ∃ i j, slot = .on i j) ∨ (slot.isJoinSide = true ∧ rest.IsOnWay) := by
  constructor
  · rintro ⟨sides, i, j, heq, hsides⟩
    cases sides with
    | nil =>
        obtain ⟨rfl, rfl⟩ := List.cons.inj heq
        exact Or.inl ⟨rfl, i, j, rfl⟩
    | cons side sides =>
        obtain ⟨rfl, rfl⟩ := List.cons.inj heq
        obtain ⟨hside, hsides⟩ := List.forall_mem_cons.mp hsides
        exact Or.inr ⟨hside, sides, i, j, rfl, hsides⟩
  · rintro (⟨rfl, i, j, rfl⟩ | ⟨hslot, sides, i, j, rfl, hsides⟩)
    · exact ⟨[], i, j, rfl, by simp⟩
    · exact ⟨slot :: sides, i, j, rfl, List.forall_mem_cons.mpr ⟨hslot, hsides⟩⟩

/-- The FROM list comes between `WHERE` and `HAVING`. -/
theorem IsOnWay.listed_between {way : Place} (hway : way.IsOnWay) :
    ListedBefore [.filter] way ∧ ListedBefore way [.having] := by
  cases way with
  | nil => exact absurd hway not_isOnWay_nil
  | cons slot rest =>
      have hkey : ∃ tail, slot.predicateKey = 1 :: tail := by
        rcases isOnWay_cons.mp hway with ⟨-, i, j, rfl⟩ | ⟨hslot, -⟩
        · exact ⟨_, rfl⟩
        · cases slot with
          | relation i => exact ⟨_, rfl⟩
          | joined i j => exact ⟨_, rfl⟩
          | _ => cases hslot
      obtain ⟨tail, hkey⟩ := hkey
      constructor <;> apply List.Lex.rel <;> rw [hkey]
      · exact List.Lex.rel Nat.zero_lt_one
      · exact List.Lex.rel (Nat.lt_succ_self 1)

end Place

/-- The way leads through joins of the part to the `ON` predicate. -/
def OnAt (p : Part) (way : Place) (e : Expr) : Prop :=
  Reaches p way (.expr e) ∧ way.IsOnWay

/-! ## The clauses of a FROM list, entry by entry -/

/-- The clauses of a FROM list, all of one entry before those of the next. -/
def entryClauses (items : List FromItem) : List (Slot × Part) :=
  eachClause (fun i item => (.relation i, .relation item.relation) :: eachClause (fun j join =>
    (.joined i j, .relation join.relation) :: optionClause (.on i j) join.on) item.joins) items

theorem mem_entryClauses {items : List FromItem} {clause : Slot × Part} :
    clause ∈ entryClauses items ↔ clause ∈ fromClauses items := by
  simp only [entryClauses, mem_fromClauses, mem_eachClause, List.mem_cons, mem_optionClause,
    and_or_left, exists_or]

/-- The clauses are in the order in which predicates are visited. -/
theorem entryClauses_pairwise (items : List FromItem) :
    (entryClauses items).Pairwise fun a b => a.1.predicateKey < b.1.predicateKey := by
  refine pairwise_eachClause ?_ ?_ items
  · intro i item
    refine List.pairwise_cons.mpr ⟨?_, pairwise_eachClause ?_ ?_ item.joins⟩
    · intro clause hclause
      obtain ⟨j, join, -, hclause⟩ := mem_eachClause.mp hclause
      simp only [List.mem_cons, mem_optionClause] at hclause
      rcases hclause with rfl | ⟨e, -, rfl⟩ <;> simp [Slot.predicateKey, List.cons_lt_cons_iff]
    · intro j join
      cases join.on <;> simp [optionClause, Slot.predicateKey, List.cons_lt_cons_iff]
    · intro j j' join join' hlt a ha b hb
      simp only [List.mem_cons, mem_optionClause] at ha hb
      rcases ha with rfl | ⟨e, -, rfl⟩ <;> rcases hb with rfl | ⟨e', -, rfl⟩ <;>
        simp [Slot.predicateKey, List.cons_lt_cons_iff, hlt]
  · -- The position of the entry comes first in the keys of all its clauses.
    have hkey (i : Nat) (item : FromItem) :
        ∀ clause ∈ (Slot.relation i, Part.relation item.relation) ::
          eachClause (fun j (join : Join) =>
            (.joined i j, .relation join.relation) :: optionClause (.on i j) join.on) item.joins,
        ∃ tail, clause.1.predicateKey = 1 :: i :: tail := by
      intro clause hclause
      simp only [List.mem_cons, mem_eachClause, mem_optionClause] at hclause
      rcases hclause with rfl | ⟨j, join, -, rfl | ⟨e, -, rfl⟩⟩ <;> exact ⟨_, rfl⟩
    intro i j item item' hlt a ha b hb
    obtain ⟨_, hfirst⟩ := hkey i item a ha
    obtain ⟨_, hsecond⟩ := hkey j item' b hb
    simp [hfirst, hsecond, List.cons_lt_cons_iff, hlt]

/-- What a clause of a FROM list contributes to the `ON` predicates. -/
def onExprs : Slot × Part → List Expr
  | (_, .relation r) => r.onPredicates
  | (_, .expr e) => [e]
  | _ => []

/-- The predicates inside a joined relation come before the join's own. -/
theorem Join.onPredicatesAll_eq (joins : List Join) :
    Join.onPredicatesAll joins =
      joins.flatMap fun join => join.relation.onPredicates ++ join.on.toList := by
  induction joins with
  | nil => rfl
  | cons join rest ih =>
      obtain ⟨relation, on⟩ := join
      rw [Join.onPredicatesAll, ih, List.flatMap_cons, List.append_assoc]

/-- The clauses hold the predicates that are collected. -/
theorem flatMap_onExprs (items : List FromItem) :
    (entryClauses items).flatMap onExprs = items.flatMap FromItem.onPredicates := by
  refine flatMap_eachClause ?_ items
  rintro i ⟨relation, joins⟩
  rw [FromItem.onPredicates, Join.onPredicatesAll_eq, List.flatMap_cons]
  congr 1
  refine flatMap_eachClause ?_ joins
  rintro j ⟨joined, on⟩
  cases on <;> simp [optionClause, onExprs]

/-! ## Listing the `ON` predicates -/

/-- The `ON` predicates of a part whose joins stand in a FROM list are those behind the clauses of
the list. -/
theorem onAt_iff {p : Part} {items : List FromItem}
    (hfrom : ∀ slot c, (slot.isJoinSide = true ∨ ∃ i j, slot = .on i j) →
      ((slot, c) ∈ p.clauses ↔ (slot, c) ∈ fromClauses items)) {way : Place} {e : Expr} :
    OnAt p way e ↔
      Behind (fun clause rest e => Reaches clause.2 rest (.expr e) ∧
        Place.IsOnWay (clause.1 :: rest))
        (entryClauses items) way e := by
  have hhead {slot : Slot} {rest : Place} (hway : Place.IsOnWay (slot :: rest)) :
      slot.isJoinSide = true ∨ ∃ i j, slot = .on i j := by
    rcases Place.isOnWay_cons.mp hway with ⟨-, hon⟩ | ⟨hside, -⟩
    · exact Or.inr hon
    · exact Or.inl hside
  constructor
  · rintro ⟨hreach, hway⟩
    cases hreach with
    | here => exact absurd hway Place.not_isOnWay_nil
    | inside hclause hrest =>
        have hmem := mem_entryClauses.mpr ((hfrom _ _ (hhead hway)).mp hclause)
        exact ⟨_, _, _, hmem, rfl, hrest, hway⟩
  · rintro ⟨slot, c, rest, hclause, rfl, hrest, hway⟩
    exact ⟨.inside ((hfrom _ _ (hhead hway)).mpr (mem_entryClauses.mp hclause)) hrest, hway⟩

/-- If the relations of a FROM list can be enumerated, so can the list. -/
theorem exists_enumerates_entryClauses (items : List FromItem)
    (hrelations : ∀ slot r, (slot, .relation r) ∈ fromClauses items →
      ∃ entries, Enumerates (fun a b => a.predicateKey < b.predicateKey) entries r.onPredicates
        (OnAt (.relation r))) :
    ∃ entries, Enumerates (fun a b => a.predicateKey < b.predicateKey) entries
      (items.flatMap FromItem.onPredicates)
      (Behind (fun clause rest e => Reaches clause.2 rest (.expr e) ∧
        Place.IsOnWay (clause.1 :: rest))
        (entryClauses items)) := by
  rw [← flatMap_onExprs]
  refine Enumerates.exists_clauses ?_ (entryClauses_pairwise items)
  -- A relation adds one step to the ways inside it.
  have hside {slot : Slot} {r : Relation} (hslot : slot.isJoinSide = true)
      (hclause : (slot, .relation r) ∈ fromClauses items) :
      ∃ entries, Enumerates (fun a b => a.predicateKey < b.predicateKey) entries r.onPredicates
        (fun rest e => Reaches (.relation r) rest (.expr e) ∧ Place.IsOnWay (slot :: rest)) := by
    obtain ⟨entries, hentries⟩ := hrelations slot r hclause
    refine ⟨entries, hentries.congr rfl fun rest e => ?_⟩
    have hnot : ¬ ∃ i j, slot = .on i j := by
      rintro ⟨i, j, rfl⟩
      cases hslot
    simp [OnAt, Place.isOnWay_cons, hslot, hnot]
  intro clause hclause
  rcases mem_fromClauses.mp (mem_entryClauses.mp hclause) with
    ⟨i, item, -, rfl⟩ | ⟨i, item, -, j, join, -, rfl | ⟨x, -, rfl⟩⟩
  · exact hside rfl (mem_entryClauses.mp hclause)
  · exact hside rfl (mem_entryClauses.mp hclause)
  · refine ⟨[([], x)], rfl, ?_, List.pairwise_singleton _ _⟩
    intro rest e
    simp only [List.mem_singleton, Prod.mk.injEq, Place.isOnWay_cons]
    constructor
    · rintro ⟨rfl, rfl⟩
      exact ⟨.here _, Or.inl ⟨rfl, i, j, rfl⟩⟩
    · rintro ⟨hreach, ⟨rfl, -⟩ | ⟨hside, -⟩⟩
      · cases hreach
        exact ⟨rfl, rfl⟩
      · cases hside

/-- The `ON` predicates of a relation are listed through any depth of parenthesised joins, each
once. -/
theorem Relation.exists_enumerates_on (r : Relation) :
    ∃ entries, Enumerates (fun a b => a.predicateKey < b.predicateKey) entries r.onPredicates
      (OnAt (.relation r)) := by
  generalize hp : Part.relation r = p
  induction p using Part.induction generalizing r with
  | step p ih =>
      subst hp
      -- Of the relations only a parenthesised join has a clause that a way to an `ON` may take.
      cases r with
      | nested item =>
          obtain ⟨entries, hentries⟩ := exists_enumerates_entryClauses [item]
            fun slot r hclause => ih slot _ hclause r rfl
          refine ⟨entries, hentries.congr ?_ fun _ _ => (onAt_iff fun _ _ _ => Iff.rfl).symm⟩
          simp [Relation.onPredicates]
      | derived q aliasName =>
          refine ⟨[], rfl, ?_, List.Pairwise.nil⟩
          intro way e
          simp only [List.not_mem_nil, false_iff]
          rintro ⟨hreach, hway⟩
          cases hreach with
          | inside hclause hrest =>
              cases List.mem_singleton.mp hclause
              rcases Place.isOnWay_cons.mp hway with ⟨-, i, j, hslot⟩ | ⟨hslot, -⟩ <;> cases hslot
      | table name aliasName | function name aliasName =>
          refine ⟨[], rfl, ?_, List.Pairwise.nil⟩
          intro way e
          simp only [List.not_mem_nil, false_iff]
          rintro ⟨hreach, -⟩
          cases hreach with
          | inside hclause hrest => cases hclause

/-- The clauses of a block: its relations, its filter, its items, its keys and its `HAVING`. -/
theorem mem_selectClauses {block : Select} {clause : Slot × Part} :
    clause ∈ (Part.select block).clauses ↔
      clause ∈ fromClauses block.fromItems ∨
      (∃ e, block.filter = some e ∧ clause = (.filter, .expr e)) ∨
      (∃ i value aliasName, block.items[i]? = some (.expr value aliasName) ∧
        clause = (.item i, .expr value)) ∨
      (∃ i e, block.groupBy[i]? = some e ∧ clause = (.group i, .expr e)) ∨
      ∃ e, block.having = some e ∧ clause = (.having, .expr e) := by
  have hitem (i : Nat) (item : SelectItem) : clause ∈ itemClause i item ↔
      ∃ value aliasName, item = .expr value aliasName ∧ clause = (.item i, .expr value) := by
    cases item <;> simp [itemClause]
  simp only [Part.clauses, List.mem_append, mem_optionClause, mem_eachClause,
    mem_exprClauses, hitem]
  grind

/-- The clauses of a block that belong to its joins are those of its FROM list. -/
theorem Select.join_clause_iff {block : Select} {slot : Slot} {c : Part}
    (hslot : slot.isJoinSide = true ∨ ∃ i j, slot = .on i j) :
    (slot, c) ∈ (Part.select block).clauses ↔ (slot, c) ∈ fromClauses block.fromItems := by
  rw [mem_selectClauses]
  refine ⟨fun hclause => ?_, Or.inl⟩
  rcases hclause with hclause | ⟨_, -, heq⟩ | ⟨_, _, _, -, heq⟩ | ⟨_, _, -, heq⟩ | ⟨_, -, heq⟩
  · exact hclause
  all_goals
    cases heq
    simp [Slot.isJoinSide] at hslot

/-- The `ON` predicates of a block are listed with their places. -/
theorem Select.exists_enumerates_on (block : Select) :
    ∃ entries, Enumerates (fun a b => a.predicateKey < b.predicateKey) entries
      (block.fromItems.flatMap FromItem.onPredicates) (OnAt (.select block)) := by
  obtain ⟨entries, hentries⟩ := exists_enumerates_entryClauses block.fromItems
    fun _ r _ => r.exists_enumerates_on
  exact ⟨entries, hentries.congr rfl fun _ _ => (onAt_iff fun _ _ => Select.join_clause_iff).symm⟩

end SqlAudit
