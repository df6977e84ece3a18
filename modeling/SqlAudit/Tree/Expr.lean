import SqlAudit.Tree.Name

/-! # Expressions and queries

The part of SQL that the review looks at. Expressions, queries, SELECT blocks and FROM items contain
one another, so they are declared together. Whatever the review has no opinion on is kept as
`Expr.other`, which holds its normalised text.
-/

namespace SqlAudit

/-- A column reference such as `price` or `h.price`. -/
structure ColumnRef where
  qualifier : Option String
  name : String
  deriving DecidableEq, Repr, Inhabited

/-- A literal as it is written in the statement. -/
inductive Literal where
  /-- An unquoted number with its sign. -/
  | number (digits : String)
  /-- A string without its quotes. -/
  | string (text : String)
  | boolean (value : Bool)
  | null
  /-- A bind parameter such as `?` or `$1`. -/
  | placeholder (mark : String)
  deriving DecidableEq, Repr, Inhabited

inductive BinaryOp where
  | eq | notEq | lt | ltEq | gt | gtEq
  | and | or
  | plus | minus | multiply | divide | modulo
  | concat
  | other (symbol : String)
  deriving DecidableEq, Repr, Inhabited

inductive UnaryOp where
  | not | minus | plus
  | other (symbol : String)
  deriving DecidableEq, Repr, Inhabited

inductive SetOp where
  | union | intersect | except
  deriving DecidableEq, Repr, Inhabited

mutual

/-- A scalar expression or a predicate. -/
inductive Expr where
  | column (ref : ColumnRef)
  | literal (value : Literal)
  | binary (left : Expr) (op : BinaryOp) (right : Expr)
  | unary (op : UnaryOp) (operand : Expr)
  /-- A parenthesised expression. -/
  | nested (inner : Expr)
  | isNull (operand : Expr) (negated : Bool)
  | inList (operand : Expr) (items : List Expr) (negated : Bool)
  | inQuery (operand : Expr) (query : Query) (negated : Bool)
  | existsQuery (query : Query) (negated : Bool)
  /-- A query that stands for its single value. -/
  | scalarQuery (query : Query)
  | like (operand pattern : Expr) (negated caseInsensitive : Bool)
  | between (operand low high : Expr) (negated : Bool)
  /-- A function call; `wildcard` records an argument `*` and `windowed` an `OVER` clause. -/
  | call (name : String) (args : List Expr) (wildcard distinct windowed : Bool)
  | caseWhen (operand : Option Expr) (branches : List CaseBranch) (otherwise : Option Expr)
  | cast (operand : Expr) (typeName : String)
  /-- An expression the review does not look into. -/
  | other (text : String)

/-- One `WHEN … THEN …` of a `CASE`. -/
structure CaseBranch where
  condition : Expr
  result : Expr

/-- A query level: a body with its ordering and paging, and the queries its `WITH` clause names. -/
structure Query where
  ctes : List Cte
  body : Body
  orderBy : List SortKey
  limit : Option Expr
  offset : Option Expr

structure Cte where
  name : String
  query : Query

/-- One `ORDER BY` key; `ascending` is absent when no direction is written. -/
structure SortKey where
  expr : Expr
  ascending : Option Bool

inductive Body where
  | select (block : Select)
  | query (inner : Query)
  | setOperation (op : SetOp) (all : Bool) (left right : Body)
  | values (rows : List (List Expr))

structure Select where
  distinct : Bool
  items : List SelectItem
  fromItems : List FromItem
  filter : Option Expr
  groupBy : List Expr
  having : Option Expr

inductive SelectItem where
  /-- `*` -/
  | all
  /-- `name.*` -/
  | allOf (name : ObjectName)
  | expr (value : Expr) (aliasName : Option String)

/-- A FROM entry: a relation and the joins that follow it. -/
structure FromItem where
  relation : Relation
  joins : List Join

/-- A joined relation; `on` is absent for joins without an `ON` predicate. -/
structure Join where
  relation : Relation
  on : Option Expr

/-- What a FROM entry or a join reads. -/
inductive Relation where
  | table (name : ObjectName) (aliasName : Option String)
  | derived (query : Query) (aliasName : Option String)
  /-- A parenthesised join. -/
  | nested (item : FromItem)
  | function (name : String) (aliasName : Option String)

end

instance : Inhabited Expr := ⟨.other ""⟩

namespace BinaryOp

/-- `= <> < <= > >=` -/
def isComparison : BinaryOp → Bool
  | .eq | .notEq | .lt | .ltEq | .gt | .gtEq => true
  | _ => false

/-- `+ - * / %` -/
def isArithmetic : BinaryOp → Bool
  | .plus | .minus | .multiply | .divide | .modulo => true
  | _ => false

end BinaryOp

namespace Expr

/-- The column an expression refers to, looking through parentheses. -/
def asColumn : Expr → Option ColumnRef
  | .column ref => some ref
  | .nested inner => inner.asColumn
  | _ => none

/-- The literal an expression is, looking through parentheses. -/
def asLiteral : Expr → Option Literal
  | .literal value => some value
  | .nested inner => inner.asLiteral
  | _ => none

/-- The expression is `NULL`, looking through parentheses. -/
def isNullLiteral (e : Expr) : Bool :=
  e.asLiteral == some .null

/-- The expression inside all surrounding parentheses. -/
def unnest : Expr → Expr
  | .nested inner => inner.unnest
  | e => e

end Expr

end SqlAudit
