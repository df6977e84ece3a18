import SqlAudit.Proofs.WalkOrder

/-! # Which nested queries the walk reaches

A query may stand in any clause of another, `ORDER BY`, `LIMIT` and `OFFSET` included, and the walk
passes over these three. An occurrence of a nested query is visited exactly when its place avoids
them. So the walk from a query visits every nested query if and only if no level it visits has a
query among the expressions that order and page its rows.
-/

namespace SqlAudit

/-! ## Clauses that order and page rows -/

/-- None of the clauses orders or pages rows. -/
def NoPaging (clauses : List (Slot × Part)) : Prop :=
  ∀ clause ∈ clauses, clause.1.isPaging = false

theorem noPaging_append {first second : List (Slot × Part)} (hfirst : NoPaging first)
    (hsecond : NoPaging second) : NoPaging (first ++ second) :=
  List.forall_mem_append.mpr ⟨hfirst, hsecond⟩

theorem noPaging_eachClause {α : Type} {f : Nat → α → List (Slot × Part)}
    (hentry : ∀ i x, NoPaging (f i x)) (entries : List α) : NoPaging (eachClause f entries) := by
  intro clause hclause
  obtain ⟨i, x, -, hclause⟩ := mem_eachClause.mp hclause
  exact hentry i x clause hclause

theorem noPaging_optionClause {slot : Slot} (hslot : slot.isPaging = false) (e : Option Expr) :
    NoPaging (optionClause slot e) := by
  intro clause hclause
  obtain ⟨x, -, rfl⟩ := mem_optionClause.mp hclause
  exact hslot

theorem noPaging_fromClauses (items : List FromItem) : NoPaging (fromClauses items) := by
  intro clause hclause
  rcases mem_fromClauses.mp hclause with ⟨_, _, -, rfl⟩ | ⟨_, _, -, _, _, -, rfl | ⟨_, -, rfl⟩⟩ <;>
    rfl

/-- Paging is a matter of query levels, not of expressions. -/
theorem Expr.noPaging_clauses (e : Expr) : NoPaging e.clauses := by
  cases e with
  | inList operand items negated => exact noPaging_eachClause (by simp [NoPaging, Slot.isPaging]) _
  | call name args wildcard distinct windowed =>
      exact noPaging_eachClause (by simp [NoPaging, Slot.isPaging]) args
  | caseWhen operand branches otherwise =>
      exact noPaging_append (noPaging_optionClause rfl operand)
        (noPaging_append (noPaging_eachClause (by simp [NoPaging, Slot.isPaging]) branches)
          (noPaging_optionClause rfl otherwise))
  | _ => simp [NoPaging, Expr.clauses, Slot.isPaging]

theorem Statement.noPaging_clauses (s : Statement) : NoPaging s.clauses := by
  cases s with
  | insert change => simp [NoPaging, Statement.clauses, Slot.isPaging]
  | update change =>
      exact noPaging_append (noPaging_fromClauses _)
        (noPaging_append (noPaging_eachClause (by simp [NoPaging, Slot.isPaging]) _)
          (noPaging_optionClause rfl _))
  | delete change => exact noPaging_append (noPaging_fromClauses _) (noPaging_optionClause rfl _)
  | _ => simp [NoPaging, Statement.clauses, Slot.isPaging]

/-- Only query levels have clauses that order and page rows. -/
theorem noPaging_clauses {p : Part} (hp : ∀ q, p ≠ .query q) : NoPaging p.clauses := by
  match p with
  | .query q => exact absurd rfl (hp q)
  | .statement s => exact s.noPaging_clauses
  | .expr e => exact e.noPaging_clauses
  | .body (.values rows) =>
      refine noPaging_eachClause ?_ rows
      intro i row
      exact noPaging_eachClause (by simp [NoPaging, Slot.isPaging]) row
  | .select block =>
      refine noPaging_append (noPaging_fromClauses _) (noPaging_append (noPaging_optionClause rfl _)
        (noPaging_append (noPaging_eachClause ?_ block.items)
          (noPaging_append (noPaging_eachClause ?_ block.groupBy) (noPaging_optionClause rfl _))))
      · intro i item
        cases item <;> simp [NoPaging, itemClause, Slot.isPaging]
      · simp [NoPaging, Slot.isPaging]
  | .relation (.nested item) => exact noPaging_fromClauses [item]
  | .body (.select _) | .body (.query _) | .body (.setOperation _ _ _ _) | .relation (.table _ _)
  | .relation (.derived _ _) | .relation (.function _ _) =>
      simp [NoPaging, Part.clauses, Slot.isPaging]

/-- The expressions that order and page the rows of a query level. -/
def Query.pagingExprs (q : Query) : List Expr :=
  q.orderBy.map (·.expr) ++ (q.limit.toList ++ q.offset.toList)

/-- The clauses of a query level that order and page rows lead to its paging expressions. -/
theorem exists_isPaging_clause_iff {q : Query} {c : Part} :
    (∃ slot, slot.isPaging = true ∧ (slot, c) ∈ (Part.query q).clauses) ↔
      ∃ e ∈ q.pagingExprs, c = .expr e := by
  simp only [Part.clauses, Query.pagingExprs, List.mem_cons, List.mem_append, mem_eachClause,
    mem_optionClause, List.not_mem_nil, or_false, Prod.mk.injEq, List.mem_map, Option.mem_toList]
  constructor
  · rintro ⟨slot, hslot, ⟨rfl, -⟩ | ⟨_, _, -, rfl, -⟩ | ⟨i, sortKey, hkey, rfl, rfl⟩ |
      ⟨e, he, rfl, rfl⟩ | ⟨e, he, rfl, rfl⟩⟩
    · cases hslot
    · cases hslot
    · exact ⟨sortKey.expr, Or.inl ⟨sortKey, List.mem_of_getElem? hkey, rfl⟩, rfl⟩
    · exact ⟨e, Or.inr (Or.inl he), rfl⟩
    · exact ⟨e, Or.inr (Or.inr he), rfl⟩
  · rintro ⟨e, ⟨sortKey, hkey, rfl⟩ | he | he, rfl⟩
    · obtain ⟨i, hi⟩ := List.mem_iff_getElem?.mp hkey
      exact ⟨.sortKey i, rfl, Or.inr (Or.inr (Or.inl ⟨i, sortKey, hi, rfl, rfl⟩))⟩
    · exact ⟨.limit, rfl, Or.inr (Or.inr (Or.inr (Or.inl ⟨e, he, rfl, rfl⟩)))⟩
    · exact ⟨.offset, rfl, Or.inr (Or.inr (Or.inr (Or.inr ⟨e, he, rfl, rfl⟩)))⟩

/-! ## Ways into a part -/

/-- A place inside a part is a place inside all that holds the part. -/
theorem Reaches.trans {p c d : Part} {first second : Place} (hfirst : Reaches p first c)
    (hsecond : Reaches c second d) : Reaches p (first ++ second) d := by
  induction hfirst with
  | here => exact hsecond
  | inside hclause _ ih => exact .inside hclause (ih hsecond)

/-- A way that enters a clause that orders or pages rows does so from a query level that the walk
visits. -/
theorem Reaches.outsidePaging_or_enters {p d : Part} {place : Place} (hreach : Reaches p place d) :
    place.OutsidePaging ∨ ∃ lead level e rest, Walked p lead (.query level) ∧
      e ∈ level.pagingExprs ∧ Reaches (.expr e) rest d := by
  induction hreach with
  | here => exact Or.inl (by simp [Place.OutsidePaging])
  | @inside p c d slot place hclause hrest ih =>
      cases hslot : slot.isPaging with
      | true =>
          cases p with
          | query level =>
              obtain ⟨e, he, rfl⟩ := exists_isPaging_clause_iff.mp ⟨slot, hslot, hclause⟩
              exact Or.inr ⟨[], level, e, place, ⟨.here _, by simp [Place.OutsidePaging]⟩, he,
                hrest⟩
          | _ =>
              have hnot := noPaging_clauses (by simp) _ hclause
              simp [hslot] at hnot
      | false =>
          rcases ih with houtside | ⟨lead, level, e, rest, ⟨hlead, houtside⟩, he, hreach⟩
          · exact Or.inl (List.forall_mem_cons.mpr ⟨hslot, houtside⟩)
          · exact Or.inr ⟨slot :: lead, level, e, rest,
              ⟨.inside hclause hlead, List.forall_mem_cons.mpr ⟨hslot, houtside⟩⟩, he, hreach⟩

/-- The clauses of an expression are its operands and the query that it owns. -/
theorem Expr.clause_cases {e : Expr} {c : Part} {slot : Slot} (hclause : (slot, c) ∈ e.clauses) :
    (slot.isOperand = true ∧ ∃ operand, c = .expr operand) ∨
      (slot = .ownQuery ∧ ∃ q, c = .query q) := by
  cases e
  all_goals grind [Expr.clauses, Slot.isOperand, mem_exprClauses, mem_eachClause, mem_optionClause]

/-- What stands inside an expression is an expression, or a query of the expression stands above it.
-/
theorem Reaches.expr_or_query_above {p d : Part} {place : Place} (hreach : Reaches p place d)
    {e : Expr} (hp : p = .expr e) :
    (∃ inner, d = .expr inner) ∨ ∃ lead q, Reaches (.expr e) lead (.query q) := by
  induction hreach generalizing e with
  | here => exact Or.inl ⟨e, hp⟩
  | inside hclause _ ih =>
      subst hp
      rcases Expr.clause_cases hclause with ⟨-, operand, rfl⟩ | ⟨-, q, rfl⟩
      · rcases ih rfl with hexpr | ⟨lead, q, hlead⟩
        · exact Or.inl hexpr
        · exact Or.inr ⟨_, q, .inside hclause hlead⟩
      · exact Or.inr ⟨_, q, .inside hclause (.here _)⟩

/-! ## What the walk finds -/

/-- The walk visits exactly what can be reached outside sort keys and paging. -/
theorem mem_nodes_iff {p : Part} {node : Node} :
    node ∈ p.nodes ↔ ∃ place, Walked p place node := by
  obtain ⟨visits, hvisits⟩ := exists_records p
  rw [← hvisits.nodes_eq, List.mem_map]
  constructor
  · rintro ⟨⟨place, _⟩, hvisit, rfl⟩
    exact ⟨place, (hvisits.mem_iff _ _).mp hvisit⟩
  · rintro ⟨place, hwalked⟩
    exact ⟨(place, node), (hvisits.mem_iff _ _).mpr hwalked, rfl⟩

/-- The walk finds nothing in an expression exactly when no query stands anywhere inside it. -/
theorem Expr.nodes_eq_nil_iff (e : Expr) :
    e.nodes = [] ↔ ∀ place q, ¬ Reaches (.expr e) place (.query q) := by
  have hmem (node : Node) : node ∈ e.nodes ↔ ∃ place, Walked (.expr e) place node :=
    mem_nodes_iff (p := .expr e)
  rw [List.eq_nil_iff_forall_not_mem]
  constructor
  · intro hnone place q hreach
    rcases hreach.outsidePaging_or_enters with houtside | ⟨lead, level, _, _, hlead, -, -⟩
    · exact hnone (.query q) ((hmem _).mpr ⟨place, hreach, houtside⟩)
    · exact hnone (.query level) ((hmem _).mpr ⟨lead, hlead⟩)
  · intro hnone node hnode
    obtain ⟨place, hreach, -⟩ := (hmem node).mp hnode
    rcases hreach.expr_or_query_above rfl with ⟨inner, hpart⟩ | ⟨lead, q, hlead⟩
    · cases node <;> cases hpart
    · exact hnone lead q hlead

/-- The occurrences of nested queries that the walk from a query visits are those outside the
clauses that order and page rows. It visits all of them exactly when no level that it visits holds a
query in one of these clauses. -/
theorem Query.walk_covers_nested_iff (q : Query) :
    ∃ visits : List (Place × Node),
      visits.map Prod.snd = q.nodes ∧
      (visits.map Prod.fst).Nodup ∧
      (∀ place node, (place, node) ∈ visits ↔
        Reaches (.query q) place node.part ∧ place.OutsidePaging) ∧
      ((∀ place nested, Reaches (.query q) place (.query nested) →
          (place, Node.query nested) ∈ visits) ↔
        ∀ level, Node.query level ∈ q.nodes → ∀ e ∈ level.pagingExprs, e.nodes = []) := by
  obtain ⟨visits, hvisits⟩ := exists_records (.query q)
  have hmem (node : Node) : node ∈ q.nodes ↔ ∃ place, Walked (.query q) place node :=
    mem_nodes_iff (p := .query q)
  refine ⟨visits, hvisits.nodes_eq, hvisits.nodup, hvisits.mem_iff, ?_, ?_⟩
  · intro hall level hlevel e he
    rw [Expr.nodes_eq_nil_iff]
    intro rest nested hrest
    -- A query inside a paging expression of a visited level has a place that is not visited.
    obtain ⟨lead, hlead, -⟩ := (hmem _).mp hlevel
    obtain ⟨slot, hslot, hclause⟩ := exists_isPaging_clause_iff.mpr ⟨e, he, rfl⟩
    have hvisit := hall _ nested (hlead.trans (.inside hclause hrest))
    obtain ⟨-, houtside⟩ := (hvisits.mem_iff _ _).mp hvisit
    have hnot := houtside slot (List.mem_append_right lead List.mem_cons_self)
    simp [hslot] at hnot
  · intro hfree place nested hreach
    refine (hvisits.mem_iff _ _).mpr ⟨hreach, ?_⟩
    rcases hreach.outsidePaging_or_enters with houtside | ⟨lead, level, e, rest, hlead, he, hrest⟩
    · exact houtside
    · have hnone := hfree level ((hmem _).mpr ⟨lead, hlead⟩) e he
      exact absurd hrest ((Expr.nodes_eq_nil_iff e).mp hnone rest nested)

/-- `SELECT * FROM name`, with the sort keys given. -/
def wholeTableSorted (name : String) (keys : List SortKey) : Query :=
  ⟨[], .select ⟨false, [.all], [⟨.table ⟨[name]⟩ none, []⟩], none, [], none⟩, keys, none, none⟩

/-- In `SELECT * FROM t ORDER BY (SELECT * FROM u)` the walk does not reach the query of the sort
key. -/
theorem sort_key_query_not_visited :
    ∃ (q nested : Query) (place : Place),
      Reaches (.query q) place (.query nested) ∧ Node.query nested ∉ q.nodes := by
  refine ⟨wholeTableSorted "t" [⟨.scalarQuery (wholeTableSorted "u" []), none⟩],
    wholeTableSorted "u" [], [.sortKey 0, .ownQuery], ?_, ?_⟩
  · refine .inside (c := .expr (.scalarQuery (wholeTableSorted "u" []))) ?_ (.inside ?_ (.here _))
    · simp [Part.clauses, wholeTableSorted, eachClause]
    · simp [Part.clauses, Expr.clauses]
  · simp [wholeTableSorted, Query.nodes, Body.nodes, Select.nodes, Cte.nodesAll,
      FromItem.relationNodes, FromItem.joinNodes, Join.nodesAll, Relation.nodes, Expr.nodesOption,
      SelectItem.nodesAll, Expr.nodesAll]

end SqlAudit
