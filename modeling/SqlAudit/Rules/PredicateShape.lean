import SqlAudit.Rules.LiteralKind
import SqlAudit.Rules.QueryShape
import SqlAudit.Walk.Predicates

/-! # Rules on predicates

Comparisons with `NULL`, comparisons of an indexed column with a literal of another type, and
arithmetic on a column inside a comparison.
-/

namespace SqlAudit.Rules

/-! ## Comparisons with NULL -/

def nullComparisonInfo : RuleInfo :=
  ⟨"null-comparison", "Comparison with NULL", .blocker, .correctness⟩

/-- The test that should replace a comparison with `NULL`, for the operators concerned. -/
def nullTest : BinaryOp → Option String
  | .eq => some "IS NULL"
  | .notEq => some "IS NOT NULL"
  | _ => none

/-- The remark on a comparison with `NULL`, with the test to write in its place. -/
def nullRemark (comparison : Expr) (test : String) : String :=
  "`" ++ comparison.toText ++
    "` is never true because any comparison with NULL is unknown; use " ++ test

def nullComparisonOf : Expr → Option String
  | .binary left op right =>
    match nullTest op with
    | some test =>
      if left.isNullLiteral || right.isNullLiteral then
        some (nullRemark (.binary left op right) test)
      else none
    | none => none
  | _ => none

/-- Comparisons with `NULL` in predicates. -/
def nullComparison : Rule :=
  .ofDetails nullComparisonInfo fun ctx =>
    ctx.statement.predicates.flatMap fun p => p.expr.preorder.filterMap nullComparisonOf

/-! ## Literals of another type -/

def implicitTypeConversionInfo : RuleInfo :=
  ⟨"implicit-type-conversion", "Implicit type conversion on indexed column", .blocker, .correctness⟩

/-- A column of the family has to be converted to be compared with the kind of literal. -/
def needsConversion : TypeName.Family → LiteralKind → Bool
  | .numeric, kind => kind != .number
  | .text, kind => kind == .number
  | .temporal, kind => kind != .dateString
  | .other, _ => false

/-- The remark on comparing a column with a literal, if the column is indexed and needs conversion.
-/
def conversionRemark (scope : Scope) (ref : ColumnRef) (value : Literal) : Option String := do
  let (table, column) ← scope.resolve ref
  let index ← (table.indexesOn column.name).head?
  let kind ← LiteralKind.ofLiteral value
  if needsConversion column.family kind then
    some ("Column `" ++ table.name ++ "." ++ column.name ++ "` (" ++ column.typeName ++
      ") is indexed by `" ++ index.name ++ "` but compared with " ++ kind.label ++ " literal " ++
      value.toText ++ "; the implicit conversion prevents index use, write the literal as " ++
      column.typeName)
  else none

/-- The column and literal of a comparison, whichever side they stand on; a column on the left goes
first. -/
def comparedPair (left right : Expr) : Option (ColumnRef × Literal) :=
  match left.asColumn, right.asLiteral with
  | some ref, some value => some (ref, value)
  | _, _ =>
    match right.asColumn, left.asLiteral with
    | some ref, some value => some (ref, value)
    | _, _ => none

/-- The remark on one node, if it compares an indexed column with a literal of another type. -/
def conversionOf (scope : Scope) : Expr → Option String
  | .binary left op right =>
    if op.isComparison then
      (comparedPair left right).bind fun pair => conversionRemark scope pair.1 pair.2
    else none
  | .inList operand items _ =>
    operand.asColumn.bind fun ref =>
      (items.filterMap Expr.asLiteral).findSome? (conversionRemark scope ref)
  | _ => none

/-- Comparisons of an indexed column with a literal of another type. -/
def implicitTypeConversion : Rule :=
  .ofDetails implicitTypeConversionInfo fun ctx =>
    ctx.statement.predicates.flatMap fun p =>
      let scope := Scope.ofFrom ctx p.owner.fromItems
      if scope.bindings.isEmpty then [] else p.expr.preorder.filterMap (conversionOf scope)

/-! ## Arithmetic on columns -/

def fieldArithmeticInfo : RuleInfo :=
  ⟨"field-arithmetic", "Arithmetic on column in predicate", .blocker, .correctness⟩

/-- The first column inside an arithmetic operand, looking through parentheses around it. -/
def arithmeticColumn (side : Expr) : Option ColumnRef :=
  match side.unnest with
  | .binary left op right =>
    if op.isArithmetic then (Expr.binary left op right).preorder.findSome? Expr.asColumn else none
  | _ => none

/-- The remark on a side of a comparison that is arithmetic on a column. -/
def arithmeticRemark (comparison side : Expr) (ref : ColumnRef) : String :=
  "`" ++ side.toText ++ "` applies arithmetic to column `" ++ ref.toText ++ "` inside `" ++
    comparison.toText ++ "`, which prevents index use; " ++
    "move the computation to the other side of the comparison"

/-- The remarks on one node: one for each side that is arithmetic on a column. -/
def fieldArithmeticOf : Expr → List String
  | .binary left op right =>
    if op.isComparison then
      [left, right].filterMap fun side =>
        (arithmeticColumn side).map (arithmeticRemark (.binary left op right) side)
    else []
  | _ => []

/-- Arithmetic on a column inside a comparison. -/
def fieldArithmetic : Rule :=
  .ofDetails fieldArithmeticInfo fun ctx =>
    ctx.statement.predicates.flatMap fun p => p.expr.preorder.flatMap fieldArithmeticOf

end SqlAudit.Rules
