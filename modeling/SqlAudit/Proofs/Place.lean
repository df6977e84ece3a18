import SqlAudit.Walk.Nodes

/-! # Places in a statement

A statement is a tree of parts: query levels, bodies, SELECT blocks, relations and expressions. A
part leads to other parts through its clauses, and each clause has a slot that tells it apart from
the other clauses of the same part. A place is the list of slots on the way down to a part, so two
occurrences of equal parts have different places. Slots are ordered as the clauses are to be
visited, and places are ordered lexicographically: a part before everything inside it, and of two
parts the one whose way first takes the earlier clause.
-/

namespace SqlAudit

/-- A part of a statement. -/
inductive Part where
  | statement (s : Statement)
  | query (q : Query)
  | body (b : Body)
  | select (block : Select)
  | relation (r : Relation)
  | expr (e : Expr)

/-- The clause of a part that leads to another part, with the positions of the entry where the
clause lists several. -/
inductive Slot where
  /-- The query of a query statement, or the rows of an `INSERT`. -/
  | source
  /-- The value of a `SET` entry of an `UPDATE`. -/
  | assignment (i : Nat)
  | body
  | cte (i : Nat)
  | sortKey (i : Nat)
  | limit
  | offset
  | block
  /-- A parenthesised query that is the body of another. -/
  | inner
  | left
  | right
  | value (row column : Nat)
  | relation (i : Nat)
  /-- The relation of a join of a FROM entry. -/
  | joined (i j : Nat)
  | on (i j : Nat)
  | filter
  | item (i : Nat)
  | group (i : Nat)
  | having
  /-- The query of a derived table. -/
  | derived
  /-- The query that an expression owns. -/
  | ownQuery
  | operand (i : Nat)
  | caseOperand
  | condition (i : Nat)
  | result (i : Nat)
  | otherwise
  deriving DecidableEq, Repr

namespace Slot

/-- What decides the order of the clauses of one part: the rank of the clause, then the positions of
the entry. A query level has its body before its `WITH` clause. A block has all leading relations,
then the joins with each relation before its `ON`, then `WHERE`, select list, `GROUP BY` and
`HAVING`; an `UPDATE` has its assignments between the joins and `WHERE`. An expression has its own
query before its operands. -/
def key : Slot → List Nat
  | .source | .block | .inner | .derived | .left | .body | .ownQuery => [0]
  | .value row column => [0, row, column]
  | .relation i => [0, i]
  | .right | .caseOperand => [1]
  | .cte i | .operand i => [1, i]
  | .joined i j => [1, i, j, 0]
  | .on i j => [1, i, j, 1]
  | .assignment i | .sortKey i => [2, i]
  | .condition i => [2, i, 0]
  | .result i => [2, i, 1]
  | .filter | .limit | .otherwise => [3]
  | .offset => [4]
  | .item i => [4, i]
  | .group i => [5, i]
  | .having => [6]

/-- `ORDER BY`, `LIMIT` and `OFFSET`: the clauses that order and page the rows of a query level. -/
def isPaging : Slot → Bool
  | .sortKey _ | .limit | .offset => true
  | _ => false

/-- The slots of the operands of an expression, as opposed to the query that it owns. -/
def isOperand : Slot → Bool
  | .operand _ | .caseOperand | .condition _ | .result _ | .otherwise => true
  | _ => false

end Slot

/-! ## Clauses -/

/-- The clauses of the entries of a list, by the position of the entry. -/
def eachClause {α : Type} (clauses : Nat → α → List (Slot × Part)) (entries : List α) :
    List (Slot × Part) :=
  (entries.mapIdx clauses).flatten

/-- The clause of an expression that may be absent. -/
def optionClause (slot : Slot) (e : Option Expr) : List (Slot × Part) :=
  e.toList.map fun e => (slot, .expr e)

/-- The clauses of expressions listed one after the other. -/
def exprClauses (slot : Nat → Slot) (es : List Expr) : List (Slot × Part) :=
  eachClause (fun i e => [(slot i, .expr e)]) es

/-- The clauses of a FROM list. -/
def fromClauses (items : List FromItem) : List (Slot × Part) :=
  eachClause (fun i item => [(.relation i, .relation item.relation)]) items ++
    eachClause (fun i item => eachClause (fun j join =>
      (.joined i j, .relation join.relation) :: optionClause (.on i j) join.on) item.joins) items

/-- The clause of a select list entry; a wildcard has none. -/
def itemClause (i : Nat) : SelectItem → List (Slot × Part)
  | .all | .allOf _ => []
  | .expr value _ => [(.item i, .expr value)]

/-- The clauses of an expression. -/
def Expr.clauses : Expr → List (Slot × Part)
  | .column _ | .literal _ | .other _ => []
  | .binary left _ right => [(.operand 0, .expr left), (.operand 1, .expr right)]
  | .unary _ operand | .nested operand | .isNull operand _ | .cast operand _ =>
    [(.operand 0, .expr operand)]
  | .inList operand items _ => exprClauses .operand (operand :: items)
  | .inQuery operand query _ => [(.ownQuery, .query query), (.operand 0, .expr operand)]
  | .existsQuery query _ | .scalarQuery query => [(.ownQuery, .query query)]
  | .like operand pattern _ _ => [(.operand 0, .expr operand), (.operand 1, .expr pattern)]
  | .between operand low high _ =>
    [(.operand 0, .expr operand), (.operand 1, .expr low), (.operand 2, .expr high)]
  | .call _ args _ _ _ => exprClauses .operand args
  | .caseWhen operand branches otherwise =>
    optionClause .caseOperand operand ++
      (eachClause (fun i branch =>
        [(.condition i, .expr branch.condition), (.result i, .expr branch.result)]) branches ++
        optionClause .otherwise otherwise)

/-- The clauses of a statement that hold queries or expressions. -/
def Statement.clauses : Statement → List (Slot × Part)
  | .query q => [(.source, .query q)]
  | .insert change => change.source.toList.map fun q => (.source, .query q)
  | .update change =>
    fromClauses [change.table] ++
      (eachClause (fun i entry => [(.assignment i, .expr entry.value)]) change.assignments ++
        optionClause .filter change.filter)
  | .delete change => fromClauses change.fromItems ++ optionClause .filter change.filter
  | .createTable _ | .createIndex _ | .alterTable _ | .dropIndex _ | .other _ => []

/-- Every clause of a part with the part it leads to. -/
def Part.clauses : Part → List (Slot × Part)
  | .statement s => s.clauses
  | .query q =>
    (.body, .body q.body) ::
      (eachClause (fun i cte => [(.cte i, .query cte.query)]) q.ctes ++
        (eachClause (fun i sortKey => [(.sortKey i, .expr sortKey.expr)]) q.orderBy ++
          (optionClause .limit q.limit ++ optionClause .offset q.offset)))
  | .body (.select block) => [(.block, .select block)]
  | .body (.query inner) => [(.inner, .query inner)]
  | .body (.setOperation _ _ left right) => [(.left, .body left), (.right, .body right)]
  | .body (.values rows) =>
    eachClause (fun i row => eachClause (fun j e => [(.value i j, .expr e)]) row) rows
  | .select block =>
    fromClauses block.fromItems ++
      (optionClause .filter block.filter ++
        (eachClause itemClause block.items ++
          (exprClauses .group block.groupBy ++ optionClause .having block.having)))
  | .relation (.derived q _) => [(.derived, .query q)]
  | .relation (.nested item) => fromClauses [item]
  | .relation (.table _ _) | .relation (.function _ _) => []
  | .expr e => e.clauses

/-! ## Places -/

/-- The way from a part down to a part inside it. -/
abbrev Place := List Slot

/-- The order of places: by the first slot in which they differ, a place before all places below it.
-/
def Place.Before : Place → Place → Prop :=
  List.Lex fun a b => a.key < b.key

/-- The place avoids the clauses that order and page rows. -/
def Place.OutsidePaging (place : Place) : Prop :=
  ∀ slot ∈ place, slot.isPaging = false

/-- `Reaches p place d`: the way `place` leads from the part `p` to the part `d`. -/
inductive Reaches : Part → Place → Part → Prop where
  | here (p : Part) : Reaches p [] p
  | inside {p c d : Part} {slot : Slot} {place : Place} (hclause : (slot, c) ∈ p.clauses)
      (hrest : Reaches c place d) : Reaches p (slot :: place) d

/-- The part that a node of the walk is. -/
def Node.part : Node → Part
  | .query q => .query q
  | .select block => .select block

/-- A clause of a list is a clause of one element, under its number. -/
theorem mem_eachClause {α : Type} {f : Nat → α → List (Slot × Part)} {entries : List α}
    {clause : Slot × Part} :
    clause ∈ eachClause f entries ↔ ∃ i x, entries[i]? = some x ∧ clause ∈ f i x := by
  simp only [eachClause, List.mem_flatten, List.mem_mapIdx]
  constructor
  · rintro ⟨_, ⟨i, hi, rfl⟩, hclause⟩
    exact ⟨i, entries[i], List.getElem?_eq_getElem hi, hclause⟩
  · rintro ⟨i, x, hx, hclause⟩
    obtain ⟨hi, rfl⟩ := List.getElem?_eq_some_iff.mp hx
    exact ⟨_, ⟨i, hi, rfl⟩, hclause⟩

theorem mem_optionClause {slot : Slot} {e : Option Expr} {clause : Slot × Part} :
    clause ∈ optionClause slot e ↔ ∃ x, e = some x ∧ clause = (slot, .expr x) := by
  cases e <;> simp [optionClause]

theorem mem_exprClauses {slot : Nat → Slot} {es : List Expr} {clause : Slot × Part} :
    clause ∈ exprClauses slot es ↔ ∃ i e, es[i]? = some e ∧ clause = (slot i, .expr e) := by
  simp [exprClauses, mem_eachClause]

/-- The clauses of a FROM list: its relations, the joined ones and their predicates. -/
theorem mem_fromClauses {items : List FromItem} {clause : Slot × Part} :
    clause ∈ fromClauses items ↔
      (∃ i item, items[i]? = some item ∧ clause = (.relation i, .relation item.relation)) ∨
      ∃ i item, items[i]? = some item ∧ ∃ j join, item.joins[j]? = some join ∧
        (clause = (.joined i j, .relation join.relation) ∨
          ∃ e, join.on = some e ∧ clause = (.on i j, .expr e)) := by
  simp only [fromClauses, List.mem_append, mem_eachClause, List.mem_cons, List.not_mem_nil,
    or_false, mem_optionClause]

/-- Entries are smaller than the list they stand in. -/
theorem sizeOf_entry_lt {α : Type} [SizeOf α] {entries : List α} {i : Nat} {x : α}
    (hx : entries[i]? = some x) : sizeOf x < sizeOf entries :=
  List.sizeOf_lt_of_mem (List.mem_of_getElem? hx)

theorem sizeOf_lt_of_mem_fromClauses {items : List FromItem} {slot : Slot} {c : Part}
    (hclause : (slot, c) ∈ fromClauses items) : sizeOf c < sizeOf items := by
  rcases mem_fromClauses.mp hclause with ⟨i, ⟨relation, joins⟩, hitem, heq⟩ |
    ⟨i, ⟨relation, joins⟩, hitem, j, ⟨joined, on⟩, hjoin, heq⟩
  · have hsize := sizeOf_entry_lt hitem
    cases heq
    simp only [Part.relation.sizeOf_spec, FromItem.mk.sizeOf_spec] at *
    omega
  · have hitemSize := sizeOf_entry_lt hitem
    have hjoinSize := sizeOf_entry_lt hjoin
    rcases heq with heq | ⟨e, rfl, heq⟩ <;> cases heq
    all_goals
      simp only [Part.relation.sizeOf_spec, Part.expr.sizeOf_spec, FromItem.mk.sizeOf_spec,
        Join.mk.sizeOf_spec, Option.some.sizeOf_spec] at *
      omega

theorem sizeOf_le_of_mem_exprClauses {slot : Nat → Slot} {es : List Expr} {taken : Slot} {c : Part}
    (hclause : (taken, c) ∈ exprClauses slot es) : sizeOf c ≤ sizeOf es := by
  obtain ⟨i, e, he, heq⟩ := mem_exprClauses.mp hclause
  have hsize := sizeOf_entry_lt he
  cases heq
  simp only [Part.expr.sizeOf_spec]
  omega

theorem sizeOf_le_of_mem_optionClause {slot taken : Slot} {e : Option Expr} {c : Part}
    (hclause : (taken, c) ∈ optionClause slot e) : sizeOf c ≤ sizeOf e := by
  obtain ⟨x, rfl, heq⟩ := mem_optionClause.mp hclause
  cases heq
  simp

/-- The clauses of an expression are no larger than the bare expression, hence smaller than it is as
a part. -/
theorem sizeOf_le_of_mem_exprParts {e : Expr} {slot : Slot} {c : Part}
    (hclause : (slot, c) ∈ e.clauses) : sizeOf c ≤ sizeOf e := by
  cases e with
  | inList operand items negated =>
      have hsize := sizeOf_le_of_mem_exprClauses hclause
      simp only [List.cons.sizeOf_spec, Expr.inList.sizeOf_spec] at *
      omega
  | call name args wildcard distinct windowed =>
      have hsize := sizeOf_le_of_mem_exprClauses hclause
      simp only [Expr.call.sizeOf_spec]
      omega
  | caseWhen operand branches otherwise =>
      simp only [Expr.clauses, List.mem_append, mem_eachClause, List.mem_cons, List.not_mem_nil,
        or_false, Prod.mk.injEq] at hclause
      simp only [Expr.caseWhen.sizeOf_spec]
      rcases hclause with hoperand | ⟨i, ⟨condition, result⟩, hbranch, hclause⟩ | hotherwise
      · have hsize := sizeOf_le_of_mem_optionClause hoperand
        omega
      · have hsize := sizeOf_entry_lt hbranch
        rcases hclause with ⟨-, rfl⟩ | ⟨-, rfl⟩ <;>
          simp only [CaseBranch.mk.sizeOf_spec, Part.expr.sizeOf_spec] at * <;> omega
      · have hsize := sizeOf_le_of_mem_optionClause hotherwise
        omega
  | _ => grind [Expr.clauses]

theorem Query.sizeOf_lt_of_mem_clauses {q : Query} {slot : Slot} {c : Part}
    (hclause : (slot, c) ∈ (Part.query q).clauses) : sizeOf c < sizeOf (Part.query q) := by
  obtain ⟨ctes, body, orderBy, limit, offset⟩ := q
  simp only [Part.clauses, List.mem_append, mem_eachClause, List.mem_cons, List.not_mem_nil,
    or_false, Prod.mk.injEq] at hclause
  simp only [Part.query.sizeOf_spec, Query.mk.sizeOf_spec]
  rcases hclause with ⟨-, rfl⟩ | ⟨i, ⟨name, query⟩, hcte, -, rfl⟩ |
    ⟨i, ⟨key, ascending⟩, hkey, -, rfl⟩ | hlimit | hoffset
  · simp only [Part.body.sizeOf_spec]
    omega
  · have hsize := sizeOf_entry_lt hcte
    simp only [Cte.mk.sizeOf_spec, Part.query.sizeOf_spec] at *
    omega
  · have hsize := sizeOf_entry_lt hkey
    simp only [SortKey.mk.sizeOf_spec, Part.expr.sizeOf_spec] at *
    omega
  · have hsize := sizeOf_le_of_mem_optionClause hlimit
    omega
  · have hsize := sizeOf_le_of_mem_optionClause hoffset
    omega

theorem Select.sizeOf_lt_of_mem_clauses {block : Select} {slot : Slot} {c : Part}
    (hclause : (slot, c) ∈ (Part.select block).clauses) :
    sizeOf c < sizeOf (Part.select block) := by
  obtain ⟨distinct, items, fromItems, filter, groupBy, having⟩ := block
  simp only [Part.clauses, List.mem_append, mem_eachClause] at hclause
  simp only [Part.select.sizeOf_spec, Select.mk.sizeOf_spec]
  rcases hclause with hfrom | hfilter | ⟨i, item, hitem, hclause⟩ | hgroup | hhaving
  · have hsize := sizeOf_lt_of_mem_fromClauses hfrom
    omega
  · have hsize := sizeOf_le_of_mem_optionClause hfilter
    omega
  · have hsize := sizeOf_entry_lt hitem
    cases item with
    | expr value aliasName =>
        simp only [itemClause, List.mem_singleton, Prod.mk.injEq] at hclause
        obtain ⟨-, rfl⟩ := hclause
        simp only [SelectItem.expr.sizeOf_spec, Part.expr.sizeOf_spec] at *
        omega
    | _ => cases hclause
  · have hsize := sizeOf_le_of_mem_exprClauses hgroup
    omega
  · have hsize := sizeOf_le_of_mem_optionClause hhaving
    omega

theorem Statement.sizeOf_lt_of_mem_clauses {s : Statement} {slot : Slot} {c : Part}
    (hclause : (slot, c) ∈ s.clauses) : sizeOf c < sizeOf (Part.statement s) := by
  cases s with
  | query q => grind [Statement.clauses]
  | insert change =>
      obtain ⟨table, columns, source⟩ := change
      cases source <;> grind [Statement.clauses]
  | update change =>
      obtain ⟨table, assignments, filter⟩ := change
      simp only [Statement.clauses, List.mem_append, mem_eachClause, List.mem_singleton,
        Prod.mk.injEq] at hclause
      simp only [Part.statement.sizeOf_spec, Statement.update.sizeOf_spec, Update.mk.sizeOf_spec]
      rcases hclause with hfrom | ⟨i, ⟨target, value⟩, hassignment, -, rfl⟩ | hfilter
      · have hsize := sizeOf_lt_of_mem_fromClauses hfrom
        simp only [List.cons.sizeOf_spec, List.nil.sizeOf_spec] at hsize
        omega
      · have hsize := sizeOf_entry_lt hassignment
        simp only [Assignment.mk.sizeOf_spec, Part.expr.sizeOf_spec] at *
        omega
      · have hsize := sizeOf_le_of_mem_optionClause hfilter
        omega
  | delete change =>
      obtain ⟨fromItems, filter⟩ := change
      simp only [Statement.clauses, List.mem_append] at hclause
      simp only [Part.statement.sizeOf_spec, Statement.delete.sizeOf_spec, Delete.mk.sizeOf_spec]
      rcases hclause with hfrom | hfilter
      · have hsize := sizeOf_lt_of_mem_fromClauses hfrom
        omega
      · have hsize := sizeOf_le_of_mem_optionClause hfilter
        omega
  | _ => cases hclause

/-- A clause leads to a smaller part. -/
theorem sizeOf_lt_of_mem_clauses {p c : Part} {slot : Slot}
    (hclause : (slot, c) ∈ p.clauses) : sizeOf c < sizeOf p := by
  match p with
  | .statement s => exact Statement.sizeOf_lt_of_mem_clauses hclause
  | .query q => exact Query.sizeOf_lt_of_mem_clauses hclause
  | .select block => exact Select.sizeOf_lt_of_mem_clauses hclause
  | .expr e =>
      have hsize := sizeOf_le_of_mem_exprParts hclause
      simp only [Part.expr.sizeOf_spec]
      omega
  | .body (.values rows) =>
      simp only [Part.clauses, mem_eachClause, List.mem_cons, List.not_mem_nil, or_false,
        Prod.mk.injEq] at hclause
      obtain ⟨i, row, hrow, j, e, he, -, rfl⟩ := hclause
      have hrowSize := sizeOf_entry_lt hrow
      have hsize := sizeOf_entry_lt he
      simp only [Part.body.sizeOf_spec, Body.values.sizeOf_spec, Part.expr.sizeOf_spec]
      omega
  | .relation (.nested item) =>
      have hsize := sizeOf_lt_of_mem_fromClauses hclause
      simp only [List.cons.sizeOf_spec, List.nil.sizeOf_spec, Part.relation.sizeOf_spec,
        Relation.nested.sizeOf_spec] at *
      omega
  | .body (.select _) | .body (.query _) | .body (.setOperation _ _ _ _) | .relation (.derived _ _)
  | .relation (.table _ _) | .relation (.function _ _) => grind [Part.clauses]

/-- Whatever passes from the parts behind the clauses of a part to the part itself holds of every
part. -/
theorem Part.induction {P : Part → Prop}
    (step : ∀ p, (∀ slot c, (slot, c) ∈ p.clauses → P c) → P p) (p : Part) : P p :=
  step p fun _ c _ => Part.induction step c
termination_by sizeOf p
decreasing_by exact sizeOf_lt_of_mem_clauses (by assumption)

end SqlAudit
