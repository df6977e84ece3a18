import SqlAudit.Tree.Expr

/-! # Text of expressions

Findings quote expressions in one fixed spelling. A nested query is abbreviated to `SELECT …`, and
so is the window of a window call.
-/

namespace SqlAudit

def ColumnRef.toText (c : ColumnRef) : String :=
  match c.qualifier with
  | some q => q ++ "." ++ c.name
  | none => c.name

/-- The literal with quotes around strings; a quote inside is doubled. -/
def Literal.toText : Literal → String
  | .number digits => digits
  | .string text => "'" ++ Text.replaceChar '\'' "''" text ++ "'"
  | .boolean true => "TRUE"
  | .boolean false => "FALSE"
  | .null => "NULL"
  | .placeholder mark => mark

def BinaryOp.toText : BinaryOp → String
  | .eq => "="
  | .notEq => "<>"
  | .lt => "<"
  | .ltEq => "<="
  | .gt => ">"
  | .gtEq => ">="
  | .and => "AND"
  | .or => "OR"
  | .plus => "+"
  | .minus => "-"
  | .multiply => "*"
  | .divide => "/"
  | .modulo => "%"
  | .concat => "||"
  | .other symbol => symbol

/-- The operator with the blank, if any, that divides it from its operand. -/
def UnaryOp.toText : UnaryOp → String
  | .not => "NOT "
  | .minus => "-"
  | .plus => "+"
  | .other symbol => symbol ++ " "

def SetOp.toText : SetOp → String
  | .union => "UNION"
  | .intersect => "INTERSECT"
  | .except => "EXCEPT"

namespace Expr

/-- The word that negates a test, with its blank. -/
def notWord (negated : Bool) : String :=
  if negated then "NOT " else ""

mutual

/-- The expression as findings quote it. -/
def toText : Expr → String
  | .column ref => ref.toText
  | .literal value => value.toText
  | .binary left op right => left.toText ++ " " ++ op.toText ++ " " ++ right.toText
  | .unary op operand => op.toText ++ operand.toText
  | .nested inner => "(" ++ inner.toText ++ ")"
  | .isNull operand negated => operand.toText ++ " IS " ++ notWord negated ++ "NULL"
  | .inList operand items negated =>
    operand.toText ++ " " ++ notWord negated ++ "IN (" ++ listText items ++ ")"
  | .inQuery operand _ negated => operand.toText ++ " " ++ notWord negated ++ "IN (SELECT …)"
  | .existsQuery _ negated => notWord negated ++ "EXISTS (SELECT …)"
  | .scalarQuery _ => "(SELECT …)"
  | .like operand pattern negated caseInsensitive =>
    operand.toText ++ " " ++ notWord negated ++ (if caseInsensitive then "ILIKE " else "LIKE ") ++
      pattern.toText
  | .between operand low high negated =>
    operand.toText ++ " " ++ notWord negated ++ "BETWEEN " ++ low.toText ++ " AND " ++ high.toText
  | .call name args wildcard distinct windowed =>
    name ++ "(" ++ (if distinct then "DISTINCT " else "") ++ (if wildcard then "*" else "") ++
      listText args ++ ")" ++ (if windowed then " OVER (…)" else "")
  | .caseWhen operand branches otherwise =>
    "CASE" ++ optionText " " operand ++ branchesText branches ++ optionText " ELSE " otherwise ++
      " END"
  | .cast operand typeName => "CAST(" ++ operand.toText ++ " AS " ++ typeName ++ ")"
  | .other text => text

def listText : List Expr → String
  | [] => ""
  | [e] => e.toText
  | e :: rest => e.toText ++ ", " ++ listText rest

def optionText (lead : String) : Option Expr → String
  | none => ""
  | some e => lead ++ e.toText

/-- The branches of a `CASE`, each behind a blank. -/
def branchesText : List CaseBranch → String
  | [] => ""
  | ⟨condition, result⟩ :: rest =>
    " WHEN " ++ condition.toText ++ " THEN " ++ result.toText ++ branchesText rest

end

end Expr

end SqlAudit
