import SqlAudit.Proofs.Enumeration

/-! # The order of the walk over a statement

The walk stops at every query level and SELECT block that can be reached without passing through an
`ORDER BY`, a `LIMIT` or an `OFFSET`, at each place once, and in the order of places. The clauses of
every part are listed in the order of their slots, and the walk finds in a part its own node and
then what it finds in each clause; the result follows by induction over parts.
-/

namespace SqlAudit

/-! ## The order of the clauses of a part -/

/-- The clauses stand in visiting order. -/
def InOrder (clauses : List (Slot × Part)) : Prop :=
  clauses.Pairwise fun a b => a.1.key < b.1.key

/-- Entries whose keys begin alike and go on with the position of the entry are in order. -/
theorem inOrder_eachClause_of_key {α : Type} {f : Nat → α → List (Slot × Part)} (lead : List Nat)
    (hentry : ∀ i x, InOrder (f i x))
    (hkey : ∀ i x, ∀ clause ∈ f i x, ∃ tail, clause.1.key = lead ++ i :: tail)
    (entries : List α) : InOrder (eachClause f entries) := by
  refine pairwise_eachClause hentry ?_ entries
  intro i j x y hij a ha b hb
  obtain ⟨_, hfirst⟩ := hkey i x a ha
  obtain ⟨_, hsecond⟩ := hkey j y b hb
  rw [hfirst, hsecond]
  exact List.append_left_lt (List.Lex.rel hij)

/-- The clauses stand in visiting order, and their ranks lie between two bounds, the upper one
excluded. -/
structure Spans (low high : Nat) (clauses : List (Slot × Part)) : Prop where
  le : low ≤ high
  inOrder : InOrder clauses
  rank : ∀ clause ∈ clauses, ∃ n tail, low ≤ n ∧ n < high ∧ clause.1.key = n :: tail

namespace Spans

/-- Two groups of clauses one after the other. -/
theorem append {low middle high : Nat} {first second : List (Slot × Part)}
    (hfirst : Spans low middle first) (hsecond : Spans middle high second) :
    Spans low high (first ++ second) := by
  have hlow := hfirst.le
  have hhigh := hsecond.le
  refine ⟨by omega, List.pairwise_append.mpr ⟨hfirst.inOrder, hsecond.inOrder, ?_⟩, ?_⟩
  · -- Ranks in the first list lie below `middle`, ranks in the second do not.
    intro a ha b hb
    obtain ⟨n, _, _, hn, hkeyA⟩ := hfirst.rank a ha
    obtain ⟨m, _, hm, _, hkeyB⟩ := hsecond.rank b hb
    rw [hkeyA, hkeyB]
    exact List.Lex.rel (by omega)
  · intro a ha
    rcases List.mem_append.mp ha with ha | ha
    · obtain ⟨n, tail, hn, hn', hkey⟩ := hfirst.rank a ha
      exact ⟨n, tail, hn, by omega, hkey⟩
    · obtain ⟨n, tail, hn, hn', hkey⟩ := hsecond.rank a ha
      exact ⟨n, tail, by omega, hn', hkey⟩

theorem weaken {low low' high : Nat} {clauses : List (Slot × Part)} (hle : low' ≤ low)
    (hspans : Spans low high clauses) : Spans low' high clauses := by
  refine ⟨Nat.le_trans hle hspans.le, hspans.inOrder, ?_⟩
  intro clause hclause
  obtain ⟨n, tail, hn, hn', hkey⟩ := hspans.rank clause hclause
  exact ⟨n, tail, by omega, hn', hkey⟩

theorem single {rank : Nat} {tail : List Nat} {slot : Slot} (hkey : slot.key = rank :: tail)
    (p : Part) : Spans rank (rank + 1) [(slot, p)] :=
  ⟨by omega, List.pairwise_singleton _ _, by simp [hkey]⟩

theorem option {rank : Nat} {tail : List Nat} {slot : Slot} (hkey : slot.key = rank :: tail)
    (e : Option Expr) : Spans rank (rank + 1) (optionClause slot e) := by
  cases e with
  | none => exact ⟨by omega, List.Pairwise.nil, by simp [optionClause]⟩
  | some e => exact single hkey (.expr e)

/-- The clauses of a list are in order if their keys begin with the number of the element. -/
theorem each {α : Type} {f : Nat → α → List (Slot × Part)} {rank : Nat}
    (hentry : ∀ i x, InOrder (f i x))
    (hkey : ∀ i x, ∀ clause ∈ f i x, ∃ tail, clause.1.key = rank :: i :: tail)
    (entries : List α) : Spans rank (rank + 1) (eachClause f entries) := by
  refine ⟨by omega, inOrder_eachClause_of_key [rank] hentry hkey entries, ?_⟩
  intro clause hclause
  obtain ⟨i, x, -, hclause⟩ := mem_eachClause.mp hclause
  obtain ⟨tail, htail⟩ := hkey i x clause hclause
  exact ⟨rank, i :: tail, by omega, by omega, htail⟩

/-- A list with one clause for each entry. -/
theorem eachSingle {α : Type} {slot : Nat → Slot} {rank : Nat}
    (hkey : ∀ i, (slot i).key = [rank, i]) (part : α → Part) (entries : List α) :
    Spans rank (rank + 1) (eachClause (fun i x => [(slot i, part x)]) entries) :=
  each (fun _ _ => List.pairwise_singleton _ _) (by simp [hkey]) entries

end Spans

/-- Relations come first, then joins. -/
theorem spans_fromClauses (items : List FromItem) : Spans 0 2 (fromClauses items) := by
  refine (Spans.eachSingle (fun _ => rfl) _ items).append (Spans.each ?_ ?_ items)
  · intro i item
    refine inOrder_eachClause_of_key [1, i] ?_ ?_ item.joins
    · intro j join
      refine List.pairwise_cons.mpr ⟨?_, (Spans.option rfl join.on).inOrder⟩
      intro clause hclause
      obtain ⟨e, -, rfl⟩ := mem_optionClause.mp hclause
      simp [Slot.key, List.cons_lt_cons_iff]
    · intro j join clause hclause
      simp only [List.mem_cons, mem_optionClause] at hclause
      rcases hclause with rfl | ⟨e, -, rfl⟩ <;> simp [Slot.key]
  · intro i item clause hclause
    obtain ⟨j, join, -, hclause⟩ := mem_eachClause.mp hclause
    simp only [List.mem_cons, mem_optionClause] at hclause
    rcases hclause with rfl | ⟨e, -, rfl⟩ <;> simp [Slot.key]

/-- The operands of an expression are in the order of their keys. -/
theorem Expr.clauses_inOrder (e : Expr) : InOrder e.clauses := by
  cases e with
  | inList operand items negated => exact (Spans.eachSingle (fun _ => rfl) _ _).inOrder
  | call name args wildcard distinct windowed =>
      exact (Spans.eachSingle (fun _ => rfl) _ args).inOrder
  | caseWhen operand branches otherwise =>
      have hbranches : Spans 2 3 (eachClause (fun i (branch : CaseBranch) =>
            [(.condition i, .expr branch.condition), (.result i, .expr branch.result)])
          branches) := by
        refine Spans.each ?_ ?_ branches
        · intro i branch
          simp [InOrder, Slot.key, List.cons_lt_cons_iff]
        · intro i branch clause hclause
          simp only [List.mem_cons, List.not_mem_nil, or_false] at hclause
          rcases hclause with rfl | rfl <;> simp [Slot.key]
      exact ((Spans.option rfl operand).append
        (hbranches.append (Spans.option rfl otherwise))).inOrder
  | _ => simp [InOrder, Expr.clauses, Slot.key, List.cons_lt_cons_iff]

theorem Statement.clauses_inOrder (s : Statement) : InOrder s.clauses := by
  cases s with
  | insert change => cases h : change.source <;> simp [InOrder, Statement.clauses, h]
  | update change =>
      exact ((spans_fromClauses [change.table]).append
        ((Spans.eachSingle (fun _ => rfl) _ change.assignments).append
          (Spans.option rfl change.filter))).inOrder
  | delete change =>
      have hfilter : Spans 3 4 (optionClause .filter change.filter) := Spans.option rfl _
      exact ((spans_fromClauses change.fromItems).append (hfilter.weaken (by omega))).inOrder
  | _ => simp [InOrder, Statement.clauses]

/-- The clauses of every part are listed in visiting order. -/
theorem clauses_inOrder (p : Part) : InOrder p.clauses := by
  match p with
  | .statement s => exact s.clauses_inOrder
  | .expr e => exact e.clauses_inOrder
  | .query q =>
      exact ((Spans.single rfl (.body q.body)).append
        ((Spans.eachSingle (fun _ => rfl) _ q.ctes).append
          ((Spans.eachSingle (fun _ => rfl) _ q.orderBy).append
            ((Spans.option rfl q.limit).append (Spans.option rfl q.offset))))).inOrder
  | .body (.values rows) =>
      have hrow (i : Nat) (row : List Expr) :
          InOrder (eachClause (fun j e => [(.value i j, .expr e)]) row) :=
        inOrder_eachClause_of_key [0, i] (fun _ _ => List.pairwise_singleton _ _)
          (by simp [Slot.key]) row
      refine inOrder_eachClause_of_key [0] hrow ?_ rows
      intro i row clause hclause
      obtain ⟨j, e, -, hclause⟩ := mem_eachClause.mp hclause
      rw [List.mem_singleton.mp hclause]
      exact ⟨[j], rfl⟩
  | .select block =>
      have hfilter : Spans 3 4 (optionClause .filter block.filter) := Spans.option rfl _
      have hitems : Spans 4 5 (eachClause itemClause block.items) := by
        refine Spans.each ?_ ?_ block.items
        · intro i item
          cases item <;> simp [InOrder, itemClause]
        · intro i item clause hclause
          cases item with
          | expr value aliasName =>
              rw [List.mem_singleton.mp hclause]
              exact ⟨[], rfl⟩
          | _ => cases hclause
      exact ((spans_fromClauses block.fromItems).append ((hfilter.weaken (by omega)).append
        (hitems.append ((Spans.eachSingle (fun _ => rfl) _ block.groupBy).append
          (Spans.option rfl block.having))))).inOrder
  | .relation (.nested item) => exact (spans_fromClauses [item]).inOrder
  | .body (.select _) | .body (.query _) | .body (.setOperation _ _ _ _) | .relation (.table _ _)
  | .relation (.derived _ _) | .relation (.function _ _) =>
      simp [InOrder, Part.clauses, Slot.key, List.cons_lt_cons_iff]

/-! ## The walk, clause by clause -/

theorem Expr.nodesAll_eq (es : List Expr) : Expr.nodesAll es = es.flatMap Expr.nodes := by
  induction es with
  | nil => rfl
  | cons e rest ih => rw [Expr.nodesAll, ih, List.flatMap_cons]

theorem Expr.nodesRows_eq (rows : List (List Expr)) :
    Expr.nodesRows rows = rows.flatMap Expr.nodesAll := by
  induction rows with
  | nil => rfl
  | cons row rest ih => rw [Expr.nodesRows, ih, List.flatMap_cons]

theorem CaseBranch.nodesAll_eq (branches : List CaseBranch) :
    CaseBranch.nodesAll branches =
      branches.flatMap fun branch => branch.condition.nodes ++ branch.result.nodes := by
  induction branches with
  | nil => rfl
  | cons branch rest ih =>
      obtain ⟨condition, result⟩ := branch
      rw [CaseBranch.nodesAll, ih, List.flatMap_cons, List.append_assoc]

theorem Cte.nodesAll_eq (ctes : List Cte) :
    Cte.nodesAll ctes = ctes.flatMap fun cte => cte.query.nodes := by
  induction ctes with
  | nil => rfl
  | cons cte rest ih =>
      obtain ⟨name, query⟩ := cte
      rw [Cte.nodesAll, ih, List.flatMap_cons]

theorem FromItem.relationNodes_eq (items : List FromItem) :
    FromItem.relationNodes items = items.flatMap fun item => item.relation.nodes := by
  induction items with
  | nil => rfl
  | cons item rest ih =>
      obtain ⟨relation, joins⟩ := item
      rw [FromItem.relationNodes, ih, List.flatMap_cons]

theorem Join.nodesAll_eq (joins : List Join) :
    Join.nodesAll joins =
      joins.flatMap fun join => join.relation.nodes ++ Expr.nodesOption join.on := by
  induction joins with
  | nil => rfl
  | cons join rest ih =>
      obtain ⟨relation, on⟩ := join
      rw [Join.nodesAll, ih, List.flatMap_cons, List.append_assoc]

theorem FromItem.joinNodes_eq (items : List FromItem) :
    FromItem.joinNodes items = items.flatMap fun item => Join.nodesAll item.joins := by
  induction items with
  | nil => rfl
  | cons item rest ih =>
      obtain ⟨relation, joins⟩ := item
      rw [FromItem.joinNodes, ih, List.flatMap_cons]

/-- A FROM entry by itself is walked like the FROM list that holds only it. -/
theorem FromItem.nodes_eq (item : FromItem) :
    item.nodes = FromItem.relationNodes [item] ++ FromItem.joinNodes [item] := by
  obtain ⟨relation, joins⟩ := item
  simp [FromItem.nodes, FromItem.relationNodes, FromItem.joinNodes]

/-- The nodes of one select list entry. -/
def SelectItem.nodes : SelectItem → List Node
  | .all | .allOf _ => []
  | .expr value _ => value.nodes

theorem SelectItem.nodesAll_eq (items : List SelectItem) :
    SelectItem.nodesAll items = items.flatMap SelectItem.nodes := by
  induction items with
  | nil => rfl
  | cons item rest ih => cases item <;> simp [SelectItem.nodesAll, SelectItem.nodes, ih]

/-- The nodes of a part and of everything nested in it. -/
def Part.nodes : Part → List Node
  | .statement s => s.nodes
  | .query q => q.nodes
  | .body b => b.nodes
  | .select block => block.nodes
  | .relation r => r.nodes
  | .expr e => e.nodes

/-- The node that a part itself is, if it is one. -/
def Part.ownNodes : Part → List Node
  | .query q => [.query q]
  | .select block => [.select block]
  | _ => []

/-- What the walk finds in a clause. It passes over the clauses that order and page rows. -/
def clauseNodes (clause : Slot × Part) : List Node :=
  if clause.1.isPaging then [] else clause.2.nodes

/-- The walk leaves paging out. -/
theorem clauseNodes_of_isPaging {slot : Slot} (hslot : slot.isPaging = true) (p : Part) :
    clauseNodes (slot, p) = [] := by
  simp [clauseNodes, hslot]

theorem clauseNodes_of_not_isPaging {slot : Slot} (hslot : slot.isPaging = false) (p : Part) :
    clauseNodes (slot, p) = p.nodes := by
  simp [clauseNodes, hslot]

theorem flatMap_optionClause {slot : Slot} (hslot : slot.isPaging = false) (e : Option Expr) :
    (optionClause slot e).flatMap clauseNodes = Expr.nodesOption e := by
  cases e <;> simp [optionClause, Expr.nodesOption, clauseNodes_of_not_isPaging hslot, Part.nodes]

theorem flatMap_exprClauses {slot : Nat → Slot} (hslot : ∀ i, (slot i).isPaging = false)
    (es : List Expr) : (exprClauses slot es).flatMap clauseNodes = Expr.nodesAll es := by
  rw [exprClauses, Expr.nodesAll_eq]
  refine flatMap_eachClause ?_ es
  intro i e
  simp [clauseNodes_of_not_isPaging (hslot i), Part.nodes]

/-- All relations are walked before the joins. -/
theorem flatMap_fromClauses (items : List FromItem) :
    (fromClauses items).flatMap clauseNodes =
      FromItem.relationNodes items ++ FromItem.joinNodes items := by
  rw [fromClauses, List.flatMap_append, FromItem.relationNodes_eq, FromItem.joinNodes_eq]
  congr 1
  · refine flatMap_eachClause ?_ items
    intro i item
    simp [clauseNodes, Slot.isPaging, Part.nodes]
  · refine flatMap_eachClause ?_ items
    intro i item
    rw [Join.nodesAll_eq]
    refine flatMap_eachClause ?_ item.joins
    intro j join
    rw [List.flatMap_cons, flatMap_optionClause rfl]
    rfl

/-- The walk through an expression goes through its clauses. -/
theorem Expr.nodes_eq (e : Expr) : e.nodes = e.clauses.flatMap clauseNodes := by
  cases e with
  | inList operand items negated =>
      rw [Expr.clauses, flatMap_exprClauses (fun _ => rfl)]
      rfl
  | call name args wildcard distinct windowed =>
      rw [Expr.clauses, flatMap_exprClauses (fun _ => rfl)]
      rfl
  | caseWhen operand branches otherwise =>
      rw [Expr.clauses, List.flatMap_append, List.flatMap_append, flatMap_optionClause rfl,
        flatMap_optionClause rfl, Expr.nodes, CaseBranch.nodesAll_eq]
      congr 2
      symm
      refine flatMap_eachClause ?_ branches
      intro i branch
      simp [clauseNodes, Slot.isPaging, Part.nodes]
  | _ => simp [Expr.nodes, Expr.clauses, clauseNodes, Slot.isPaging, Part.nodes]

theorem Statement.nodes_eq (s : Statement) : s.nodes = s.clauses.flatMap clauseNodes := by
  cases s with
  | insert change =>
      cases h : change.source <;>
        simp [Statement.nodes, Statement.clauses, clauseNodes, Slot.isPaging, Part.nodes, h]
  | update change =>
      have hassignments : (eachClause (fun i (entry : Assignment) =>
          [(.assignment i, .expr entry.value)]) change.assignments).flatMap clauseNodes =
          change.assignments.flatMap (·.value.nodes) := by
        refine flatMap_eachClause ?_ change.assignments
        intro i entry
        simp [clauseNodes, Slot.isPaging, Part.nodes]
      rw [Statement.nodes, Statement.clauses, List.flatMap_append, List.flatMap_append,
        flatMap_fromClauses, ← FromItem.nodes_eq, hassignments, flatMap_optionClause rfl,
        List.flatMap_def]
  | delete change =>
      rw [Statement.nodes, Statement.clauses, List.flatMap_append, flatMap_fromClauses,
        flatMap_optionClause rfl, List.append_assoc]
  | _ => simp [Statement.nodes, Statement.clauses, clauseNodes, Slot.isPaging, Part.nodes]

/-- The walk lists a part's own node and then, in the order of the clauses, what it finds in each.
-/
theorem nodes_eq_clauses (p : Part) : p.nodes = p.ownNodes ++ p.clauses.flatMap clauseNodes := by
  match p with
  | .statement s => exact s.nodes_eq
  | .expr e => exact e.nodes_eq
  | .query ⟨ctes, body, orderBy, limit, offset⟩ =>
      have hctes : (eachClause (fun i (cte : Cte) => [(.cte i, .query cte.query)]) ctes).flatMap
          clauseNodes = Cte.nodesAll ctes := by
        rw [Cte.nodesAll_eq]
        refine flatMap_eachClause ?_ ctes
        intro i cte
        simp [clauseNodes, Slot.isPaging, Part.nodes]
      have hpaging : (eachClause (fun i (sortKey : SortKey) => [(.sortKey i, .expr sortKey.expr)])
          orderBy ++ (optionClause .limit limit ++ optionClause .offset offset)).flatMap
          clauseNodes = [] := by
        rw [List.flatMap_eq_nil_iff]
        intro clause hclause
        simp only [List.mem_append, mem_eachClause, List.mem_singleton, mem_optionClause] at hclause
        rcases hclause with ⟨i, sortKey, -, rfl⟩ | ⟨e, -, rfl⟩ | ⟨e, -, rfl⟩ <;>
          exact clauseNodes_of_isPaging rfl _
      rw [Part.clauses, List.flatMap_cons, List.flatMap_append, hctes, hpaging, List.append_nil]
      rfl
  | .body (.values rows) =>
      rw [Part.nodes, Body.nodes, Expr.nodesRows_eq]
      symm
      refine flatMap_eachClause ?_ rows
      intro i row
      exact flatMap_exprClauses (fun _ => rfl) row
  | .select ⟨distinct, items, fromItems, filter, groupBy, having⟩ =>
      have hitems : (eachClause itemClause items).flatMap clauseNodes =
          SelectItem.nodesAll items := by
        rw [SelectItem.nodesAll_eq]
        refine flatMap_eachClause ?_ items
        intro i item
        cases item <;> simp [itemClause, SelectItem.nodes, clauseNodes, Slot.isPaging, Part.nodes]
      rw [Part.clauses, List.flatMap_append, List.flatMap_append, List.flatMap_append,
        List.flatMap_append, flatMap_fromClauses, flatMap_optionClause rfl, hitems,
        flatMap_exprClauses (fun _ => rfl), flatMap_optionClause rfl, List.append_assoc]
      rfl
  | .relation (.nested item) =>
      rw [Part.clauses, flatMap_fromClauses, ← FromItem.nodes_eq]
      rfl
  | .body (.select _) | .body (.query _) | .body (.setOperation _ _ _ _) | .relation (.table _ _)
  | .relation (.derived _ _) | .relation (.function _ _) =>
      simp [Part.nodes, Part.ownNodes, Part.clauses, clauseNodes, Slot.isPaging, Body.nodes,
        Relation.nodes]

/-! ## Visits -/

/-- The place leads to the node without passing a clause that orders or pages rows. -/
def Walked (p : Part) (place : Place) (node : Node) : Prop :=
  Reaches p place node.part ∧ place.OutsidePaging

/-- The place leads through one of the clauses to the node. -/
def WalkedBehind (clauses : List (Slot × Part)) (place : Place) (node : Node) : Prop :=
  ∃ slot c rest, (slot, c) ∈ clauses ∧ slot.isPaging = false ∧ place = slot :: rest ∧
    Walked c rest node

/-- A node is the part itself or stands behind one of its clauses. -/
theorem walked_iff {p : Part} {place : Place} {node : Node} :
    Walked p place node ↔
      (place = [] ∧ node ∈ p.ownNodes) ∨ WalkedBehind p.clauses place node := by
  constructor
  · rintro ⟨hreach, houtside⟩
    cases hreach with
    | here => exact Or.inl ⟨rfl, by cases node <;> simp [Node.part, Part.ownNodes]⟩
    | inside hclause hrest =>
        obtain ⟨hslot, hplace⟩ := List.forall_mem_cons.mp houtside
        exact Or.inr ⟨_, _, _, hclause, hslot, rfl, hrest, hplace⟩
  · rintro (⟨rfl, hown⟩ | ⟨slot, c, rest, hclause, hslot, rfl, hrest, hplace⟩)
    · have hpart : p = node.part := by
        cases p <;> simp only [Part.ownNodes, List.mem_singleton, List.not_mem_nil] at hown <;>
          rw [hown] <;> rfl
      subst hpart
      exact ⟨.here _, by simp [Place.OutsidePaging]⟩
    · exact ⟨.inside hclause hrest, List.forall_mem_cons.mpr ⟨hslot, hplace⟩⟩

/-- The visits give each listed node its place: they cover exactly the located nodes and stand in
the order of places. -/
structure Records (visits : List (Place × Node)) (nodes : List Node)
    (located : Place → Node → Prop) : Prop where
  nodes_eq : visits.map Prod.snd = nodes
  mem_iff : ∀ place node, (place, node) ∈ visits ↔ located place node
  inOrder : visits.Pairwise fun a b => a.1.Before b.1

/-- The walk passes over a paging clause, and goes from any other into the part behind it. -/
theorem exists_enumerates_clause (slot : Slot) (c : Part)
    (hpart : ∃ visits, Records visits c.nodes (Walked c)) :
    ∃ visits, Enumerates (fun a b => a.key < b.key) visits (clauseNodes (slot, c))
      (fun rest node => slot.isPaging = false ∧ Walked c rest node) := by
  cases hslot : slot.isPaging with
  | true =>
      refine ⟨[], (clauseNodes_of_isPaging hslot c).symm, ?_, List.Pairwise.nil⟩
      simp
  | false =>
      obtain ⟨visits, hvisits⟩ := hpart
      refine ⟨visits, ?_, ?_, hvisits.inOrder⟩
      · rw [clauseNodes_of_not_isPaging hslot, hvisits.nodes_eq]
      · intro place node
        simp [hvisits.mem_iff]

/-- If each part can be recorded, so can the clauses one after the other. -/
theorem exists_records_clauses (clauses : List (Slot × Part)) (hinOrder : InOrder clauses)
    (hparts : ∀ slot c, (slot, c) ∈ clauses → ∃ visits, Records visits c.nodes (Walked c)) :
    ∃ visits, Enumerates (fun a b => a.key < b.key) visits (clauses.flatMap clauseNodes)
      (WalkedBehind clauses) := by
  obtain ⟨visits, hvisits⟩ := Enumerates.exists_clauses (fun clause hclause =>
    exists_enumerates_clause clause.1 clause.2 (hparts _ _ hclause)) hinOrder
  refine ⟨visits, hvisits.congr rfl fun place node => ?_⟩
  constructor
  · rintro ⟨slot, c, rest, hclause, rfl, hslot, hrest⟩
    exact ⟨slot, c, rest, hclause, hslot, rfl, hrest⟩
  · rintro ⟨slot, c, rest, hclause, hslot, rfl, hrest⟩
    exact ⟨slot, c, rest, hclause, rfl, hslot, hrest⟩

/-- The walk from any part visits exactly the nodes outside the paging clauses, in the order of
places. -/
theorem exists_records (p : Part) : ∃ visits, Records visits p.nodes (Walked p) := by
  induction p using Part.induction with
  | step p ih =>
      obtain ⟨visits, hvisits⟩ := exists_records_clauses p.clauses (clauses_inOrder p) ih
      have hone : p.ownNodes.length ≤ 1 := by
        cases p <;> simp [Part.ownNodes]
      have hall := ((Enumerates.atPlace [] hone).append hvisits ?_).congr (nodes_eq_clauses p).symm
        fun _ _ => walked_iff.symm
      · exact ⟨_, hall.listed_eq, hall.mem_iff, hall.inOrder⟩
      · -- The part itself has the empty place, which is before every place behind a clause.
        rintro _ _ _ _ ⟨rfl, -⟩ ⟨_, _, _, -, -, rfl, -⟩
        exact List.Lex.nil

theorem Place.before_irrefl (place : Place) : ¬ place.Before place :=
  List.lex_irrefl (fun slot => List.lex_irrefl Nat.lt_irrefl slot.key) place

/-- No place is visited twice. -/
theorem Records.nodup {visits : List (Place × Node)} {nodes : List Node}
    {located : Place → Node → Prop} (hvisits : Records visits nodes located) :
    (visits.map Prod.fst).Nodup := by
  refine List.pairwise_map.mpr (hvisits.inOrder.imp ?_)
  intro a b hbefore heq
  exact Place.before_irrefl b.1 (heq ▸ hbefore)

/-- The walk over a statement lists the query levels and SELECT blocks at all places outside the
clauses that order and page rows, each place once and in the order of places. -/
theorem Statement.nodes_enumerate_places (s : Statement) :
    ∃ visits : List (Place × Node),
      visits.map Prod.snd = s.nodes ∧
      (∀ place node, (place, node) ∈ visits ↔
        Reaches (.statement s) place node.part ∧ place.OutsidePaging) ∧
      (visits.map Prod.fst).Nodup ∧
      visits.Pairwise fun a b => a.1.Before b.1 := by
  obtain ⟨visits, hvisits⟩ := exists_records (.statement s)
  exact ⟨visits, hvisits.nodes_eq, hvisits.mem_iff, hvisits.nodup, hvisits.inOrder⟩

end SqlAudit
