import SqlAudit.Sql.Reader

/-! # How tightly operators bind

A greater number binds more tightly. PostgreSQL has an order of its own.
-/

namespace SqlAudit.Sql

/-- The groups of operators that bind alike. -/
inductive Precedence where
  | period | doubleColon | bracket | atTimeZone | caret | mulDiv | plusMinus | xor | ampersand
  | pipe | between | equal | like | is | other | not | and | or
  deriving DecidableEq, Repr, Inhabited

def Precedence.tightness (d : Dialect) (p : Precedence) : Nat :=
  match d with
  | .postgresql =>
    match p with
    | .period => 200
    | .doubleColon => 140
    | .bracket => 130
    | .atTimeZone => 110
    | .caret => 100
    | .mulDiv => 90
    | .plusMinus => 80
    | .xor => 75
    | .ampersand | .pipe | .other => 70
    | .between | .like => 60
    | .equal => 50
    | .is => 40
    | .not => 30
    | .and => 20
    | .or => 10
  | _ =>
    match p with
    | .period => 100
    | .doubleColon => 50
    | .bracket => 50
    | .atTimeZone => 41
    | .mulDiv => 40
    | .plusMinus => 30
    | .xor => 24
    | .ampersand => 23
    | .caret => 22
    | .pipe => 21
    | .between | .equal => 20
    | .like => 19
    | .is => 17
    | .other => 16
    | .not => 15
    | .and => 10
    | .or => 5

/-- The group of a symbol between two operands, if it is an operator there. -/
def symbolPrecedence? (d : Dialect) (s : String) : Option Precedence :=
  let postgres : Option Precedence :=
    if d = .postgresql then
      match s with
      | "[" => some .bracket
      | "->" | "->>" | "#>" | "#>>" | "@>" | "<@" | "#-" | "@?" | "@@" | "?" | "?&" | "?|" | "!"
      | "&&" | "^@" | "||" | "#" | ">>" | "<<" => some .other
      | _ => none
    else none
  match postgres with
  | some p => some p
  | none =>
    match s with
    | "." => some .period
    | ":=" | "=" | "<" | "<=" | "<>" | ">" | ">=" | "==" | "~" | "~*" | "!~" | "!~*" | "~~" | "~~*"
    | "!~~" | "!~~*" | "<=>" => some .equal
    | "|" | "&&" => some .pipe
    | "^" | "#" | ">>" | "<<" => some .caret
    | "&" => some .ampersand
    | "+" | "-" => some .plusMinus
    | "*" | "/" | "//" | "%" | "||" => some .mulDiv
    | "::" => some .doubleColon
    | "->" | "->>" | "#>" | "#>>" | "@>" | "<@" | "#-" | "@?" | "@@" | "?" | "?&" | "?|" =>
      some .other
    | _ => none

/-- The group of a keyword between two operands, given the next two keywords. `NOT` belongs to the
operator it negates. -/
def keywordPrecedence? (mode : Mode) (key next afterNext : String) : Option Precedence :=
  match key with
  | "OR" => some .or
  | "AND" => some .and
  | "XOR" => some .xor
  | "AT" => if next == "TIME" && afterNext == "ZONE" then some .atTimeZone else none
  | "NOT" =>
    match next with
    | "IN" | "BETWEEN" => some .between
    | "LIKE" | "ILIKE" | "RLIKE" | "REGEXP" | "MATCH" | "SIMILAR" | "MEMBER" => some .like
    | "NULL" => if mode.inColumn then none else some .is
    | _ => none
  | "NOTNULL" => if mode.dialect.hasNotNullWord then some .is else none
  | "IS" => some .is
  | "IN" | "BETWEEN" | "OVERLAPS" | "OPERATOR" => some .between
  | "LIKE" | "ILIKE" | "RLIKE" | "REGEXP" | "MATCH" | "SIMILAR" | "MEMBER" => some .like
  | "DIV" => some .mulDiv
  | _ => none

/-- How tightly the next lexeme binds as an operator, zero if it is none. -/
def nextTightness : Reader Nat :=
  fun mode rest =>
    let key (n : Nat) : String := (rest[n]?.map Lexeme.key).getD ""
    let group : Option Precedence :=
      match rest.head? with
      | some { token := .word _ _, key := k, .. } => keywordPrecedence? mode k (key 1) (key 2)
      | some { token := .symbol s, .. } => symbolPrecedence? mode.dialect s
      | some { token := .operator _, .. } => some .other
      | _ => none
    .ok ((group.map (Precedence.tightness mode.dialect)).getD 0, rest)

end SqlAudit.Sql
