import SqlAudit.Tree.Expr

/-! # Walking an expression

An expression has operands, which are expressions, and may own a nested query. `preorder` lists
every node of an expression, each before its operands and operands in written order; it never enters
a nested query, whose own blocks are visited by the walk over the statement.
-/

namespace SqlAudit.Expr

/-- The operands of the branches of a `CASE`: each condition before its result. -/
def branchOperands (branches : List CaseBranch) : List Expr :=
  branches.flatMap fun branch => [branch.condition, branch.result]

/-- The direct operands in written order. -/
def operands : Expr → List Expr
  | .column _ | .literal _ | .scalarQuery _ | .existsQuery _ _ | .other _ => []
  | .binary left _ right => [left, right]
  | .unary _ operand | .isNull operand _ | .inQuery operand _ _ | .cast operand _ => [operand]
  | .nested inner => [inner]
  | .inList operand items _ => operand :: items
  | .like operand pattern _ _ => [operand, pattern]
  | .between operand low high _ => [operand, low, high]
  | .call _ args _ _ _ => args
  | .caseWhen operand branches otherwise =>
    operand.toList ++ branchOperands branches ++ otherwise.toList

/-- The queries that the node itself owns. -/
def ownQueries : Expr → List Query
  | .scalarQuery query | .inQuery _ query _ | .existsQuery query _ => [query]
  | _ => []

mutual

/-- Every node of the expression outside nested queries, each before its operands. -/
def preorder : Expr → List Expr
  | .column ref => [.column ref]
  | .literal value => [.literal value]
  | .binary left op right => .binary left op right :: (left.preorder ++ right.preorder)
  | .unary op operand => .unary op operand :: operand.preorder
  | .nested inner => .nested inner :: inner.preorder
  | .isNull operand negated => .isNull operand negated :: operand.preorder
  | .inList operand items negated =>
    .inList operand items negated :: (operand.preorder ++ preorderAll items)
  | .inQuery operand query negated => .inQuery operand query negated :: operand.preorder
  | .existsQuery query negated => [.existsQuery query negated]
  | .scalarQuery query => [.scalarQuery query]
  | .like operand pattern negated caseInsensitive =>
    .like operand pattern negated caseInsensitive :: (operand.preorder ++ pattern.preorder)
  | .between operand low high negated =>
    .between operand low high negated :: (operand.preorder ++ (low.preorder ++ high.preorder))
  | .call name args wildcard distinct windowed =>
    .call name args wildcard distinct windowed :: preorderAll args
  | .caseWhen operand branches otherwise =>
    .caseWhen operand branches otherwise ::
      (preorderOption operand ++ (preorderBranches branches ++ preorderOption otherwise))
  | .cast operand typeName => .cast operand typeName :: operand.preorder
  | .other text => [.other text]

def preorderAll : List Expr → List Expr
  | [] => []
  | e :: rest => e.preorder ++ preorderAll rest

def preorderOption : Option Expr → List Expr
  | none => []
  | some e => e.preorder

def preorderBranches : List CaseBranch → List Expr
  | [] => []
  | ⟨condition, result⟩ :: rest =>
    condition.preorder ++ (result.preorder ++ preorderBranches rest)

end

end SqlAudit.Expr
