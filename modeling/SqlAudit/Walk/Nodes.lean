import SqlAudit.Tree.Statement

/-! # Walking a statement

`Statement.nodes` lists the query levels and SELECT blocks of a statement in visiting order. From a
query level the walk goes to its body and then to the queries of its `WITH` clause. From a SELECT
block it goes to the relations of the FROM list, to the joins (each relation, then its `ON`), to
`WHERE`, to the select list, to `GROUP BY` and to `HAVING`. Expressions are entered for the queries
nested in them.
-/

namespace SqlAudit

/-- A place the walk over a statement stops at. -/
inductive Node where
  /-- A query level with its ordering and paging. -/
  | query (query : Query)
  /-- One SELECT block. -/
  | select (block : Select)

mutual

/-- The nodes of a query level and of everything nested in it. -/
def Query.nodes : Query → List Node
  | ⟨ctes, body, orderBy, limit, offset⟩ =>
    .query ⟨ctes, body, orderBy, limit, offset⟩ :: (body.nodes ++ Cte.nodesAll ctes)

def Cte.nodesAll : List Cte → List Node
  | [] => []
  | ⟨_, query⟩ :: rest => query.nodes ++ Cte.nodesAll rest

def Body.nodes : Body → List Node
  | .select block => block.nodes
  | .query inner => inner.nodes
  | .setOperation _ _ left right => left.nodes ++ right.nodes
  | .values rows => Expr.nodesRows rows

/-- The nodes of a SELECT block and of everything nested in it. -/
def Select.nodes : Select → List Node
  | ⟨distinct, items, fromItems, filter, groupBy, having⟩ =>
    .select ⟨distinct, items, fromItems, filter, groupBy, having⟩ ::
      (FromItem.relationNodes fromItems ++ (FromItem.joinNodes fromItems ++
        (Expr.nodesOption filter ++ (SelectItem.nodesAll items ++
          (Expr.nodesAll groupBy ++ Expr.nodesOption having)))))

def SelectItem.nodesAll : List SelectItem → List Node
  | [] => []
  | .all :: rest => SelectItem.nodesAll rest
  | .allOf _ :: rest => SelectItem.nodesAll rest
  | .expr value _ :: rest => value.nodes ++ SelectItem.nodesAll rest

/-- The nodes of the leading relations of a FROM list. -/
def FromItem.relationNodes : List FromItem → List Node
  | [] => []
  | ⟨relation, _⟩ :: rest => relation.nodes ++ FromItem.relationNodes rest

/-- The nodes of the joins of a FROM list. -/
def FromItem.joinNodes : List FromItem → List Node
  | [] => []
  | ⟨_, joins⟩ :: rest => Join.nodesAll joins ++ FromItem.joinNodes rest

/-- The nodes of one FROM entry: of its relation, then of its joins. -/
def FromItem.nodes : FromItem → List Node
  | ⟨relation, joins⟩ => relation.nodes ++ Join.nodesAll joins

/-- The nodes of joins: of each relation, then of its `ON` predicate. -/
def Join.nodesAll : List Join → List Node
  | [] => []
  | ⟨relation, on⟩ :: rest => relation.nodes ++ (Expr.nodesOption on ++ Join.nodesAll rest)

def Relation.nodes : Relation → List Node
  | .table _ _ => []
  | .derived query _ => query.nodes
  | .nested item => item.nodes
  | .function _ _ => []

/-- The nodes of the queries nested in an expression, a query before those of the operands. -/
def Expr.nodes : Expr → List Node
  | .column _ => []
  | .literal _ => []
  | .binary left _ right => left.nodes ++ right.nodes
  | .unary _ operand => operand.nodes
  | .nested inner => inner.nodes
  | .isNull operand _ => operand.nodes
  | .inList operand items _ => operand.nodes ++ Expr.nodesAll items
  | .inQuery operand query _ => query.nodes ++ operand.nodes
  | .existsQuery query _ => query.nodes
  | .scalarQuery query => query.nodes
  | .like operand pattern _ _ => operand.nodes ++ pattern.nodes
  | .between operand low high _ => operand.nodes ++ (low.nodes ++ high.nodes)
  | .call _ args _ _ _ => Expr.nodesAll args
  | .caseWhen operand branches otherwise =>
    Expr.nodesOption operand ++ (CaseBranch.nodesAll branches ++ Expr.nodesOption otherwise)
  | .cast operand _ => operand.nodes
  | .other _ => []

def Expr.nodesAll : List Expr → List Node
  | [] => []
  | e :: rest => e.nodes ++ Expr.nodesAll rest

def Expr.nodesOption : Option Expr → List Node
  | none => []
  | some e => e.nodes

def Expr.nodesRows : List (List Expr) → List Node
  | [] => []
  | row :: rest => Expr.nodesAll row ++ Expr.nodesRows rest

def CaseBranch.nodesAll : List CaseBranch → List Node
  | [] => []
  | ⟨condition, result⟩ :: rest => condition.nodes ++ (result.nodes ++ CaseBranch.nodesAll rest)

end

namespace Statement

/-- Every query level and SELECT block of a statement, in visiting order. -/
def nodes : Statement → List Node
  | .query q => q.nodes
  | .insert change => (change.source.map Query.nodes).getD []
  | .update change =>
    change.table.nodes ++ ((change.assignments.map (·.value.nodes)).flatten ++
      Expr.nodesOption change.filter)
  | .delete change =>
    FromItem.relationNodes change.fromItems ++ (FromItem.joinNodes change.fromItems ++
      Expr.nodesOption change.filter)
  | .createTable _ | .createIndex _ | .alterTable _ | .dropIndex _ | .other _ => []

/-- The SELECT blocks of a statement, in visiting order. -/
def selects (s : Statement) : List Select :=
  s.nodes.filterMap fun
    | .select block => some block
    | .query _ => none

/-- The query levels of a statement, in visiting order. -/
def queries (s : Statement) : List Query :=
  s.nodes.filterMap fun
    | .query q => some q
    | .select _ => none

end Statement

end SqlAudit
