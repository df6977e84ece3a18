import SqlAudit.Walk.Nodes

/-! # Predicates of a statement

A predicate stands in a `WHERE`, a `HAVING` or the `ON` of a join, and belongs to the part of the
statement whose tables its columns may come from. `Statement.predicates` lists them: first the
`WHERE` of an `UPDATE` or `DELETE`, then for every SELECT block its `WHERE`, the `ON` predicates of
its FROM list and its `HAVING`.
-/

namespace SqlAudit

/-- The clause a predicate stands in. -/
inductive Site where
  | filter
  | having
  | joinOn
  deriving DecidableEq, Repr, Inhabited

/-- The part of a statement that a predicate belongs to. -/
inductive Owner where
  | select (block : Select)
  | update (change : Update)
  | delete (change : Delete)

/-- The FROM entries whose columns a predicate of the owner may refer to. -/
def Owner.fromItems : Owner → List FromItem
  | .select block => block.fromItems
  | .update change => [change.table]
  | .delete change => change.fromItems

/-- A predicate with the clause it stands in and the part it belongs to. -/
structure Predicate where
  site : Site
  expr : Expr
  owner : Owner

mutual

/-- The `ON` predicates of a FROM entry, through any depth of parenthesised joins. -/
def FromItem.onPredicates : FromItem → List Expr
  | ⟨relation, joins⟩ => relation.onPredicates ++ Join.onPredicatesAll joins

/-- The `ON` predicates of joins: those inside the joined relation before the join's own. -/
def Join.onPredicatesAll : List Join → List Expr
  | [] => []
  | ⟨relation, on⟩ :: rest => relation.onPredicates ++ (on.toList ++ Join.onPredicatesAll rest)

/-- The `ON` predicates inside a parenthesised join; a derived table keeps its own to itself. -/
def Relation.onPredicates : Relation → List Expr
  | .nested item => item.onPredicates
  | .table _ _ => []
  | .derived _ _ => []
  | .function _ _ => []

end

def Select.predicates (block : Select) : List Predicate :=
  block.filter.toList.map (Predicate.mk .filter · (.select block)) ++
    ((block.fromItems.flatMap FromItem.onPredicates).map (Predicate.mk .joinOn · (.select block)) ++
      block.having.toList.map (Predicate.mk .having · (.select block)))

/-- The predicate that an `UPDATE` or `DELETE` itself carries. -/
def Statement.ownPredicates : Statement → List Predicate
  | .update change => change.filter.toList.map (Predicate.mk .filter · (.update change))
  | .delete change => change.filter.toList.map (Predicate.mk .filter · (.delete change))
  | _ => []

/-- The predicates of a statement, in visiting order. -/
def Statement.predicates (s : Statement) : List Predicate :=
  s.ownPredicates ++ s.selects.flatMap Select.predicates

end SqlAudit
