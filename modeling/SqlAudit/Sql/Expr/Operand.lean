import SqlAudit.Sql.Expr.Access
import SqlAudit.Sql.Expr.Forms

/-! # Operands

What an expression may begin with: literals, columns, calls, keyword forms, parentheses and
operators in front. A keyword that begins no form here may still be the name of a column.
-/

namespace SqlAudit.Sql

open Reader

/-- An operator in front of its operand; `spacing` stands between them. -/
def unaryTerm (op : UnaryOp) (mark spacing : String) (t : Term) : Term :=
  let text := mark ++ spacing ++ t.text
  match op, t.shape with
  | .minus, .number digits => ⟨text, .literal (.number ("-" ++ digits)), .plain⟩
  | _, _ => ⟨text, .unary op t.expr, .plain⟩

def notTerm (g : Grammar) : Reader Term := do
  if ← keyword "EXISTS" then existsTerm g true
  else
    let d ← dialect
    pure (unaryTerm .not "NOT" " " (← g.expr (Precedence.not.tightness d)))

/-- A function that may be written without parentheses, after its name. -/
def bareCall (g : Grammar) (name : Ident) : Reader Term := do
  if ← symbol "(" then
    let given ← arguments g
    pure ⟨name.text ++ "(" ++ given.text ++ ")",
      .call name.text given.exprs given.wildcard given.distinct false, .call⟩
  else pure ⟨name.text, .call name.text [] false false false, .call⟩

/-- The form that a keyword begins, after the keyword, if it begins one. `operand` reads another
operand. -/
def keywordTerm (g : Grammar) (operand : Reader Term) (name : Ident) (key : String) :
    Reader (Option Term) := do
  let d ← dialect
  match key with
  | "TRUE" => pure (some ⟨"true", .literal (.boolean true), .value⟩)
  | "FALSE" => pure (some ⟨"false", .literal (.boolean false), .value⟩)
  | "NULL" => pure (some ⟨"NULL", .literal .null, .value⟩)
  | "CURRENT_CATALOG" | "CURRENT_USER" | "SESSION_USER" | "USER" =>
    if d = .generic || d = .postgresql then
      pure (some ⟨name.text, .call name.text [] false false false, .call⟩)
    else pure none
  | "CURRENT_TIMESTAMP" | "CURRENT_TIME" | "CURRENT_DATE" | "LOCALTIME" | "LOCALTIMESTAMP" =>
    pure (some (← bareCall g name))
  | "CASE" => pure (some (← caseTerm g))
  | "CONVERT" => pure (some (← convertTerm g))
  | "CAST" | "TRY_CAST" | "SAFE_CAST" => pure (some (← castTerm g key))
  | "EXISTS" => pure (some (← existsTerm g false))
  | "EXTRACT" => pure (some (← extractTerm g))
  | "CEIL" | "FLOOR" => pure (some (← roundTerm g key))
  | "POSITION" => if ← atSymbol "(" then pure (some (← positionTerm g name)) else pure none
  | "SUBSTR" | "SUBSTRING" => pure (some (← substringTerm g key))
  | "OVERLAY" => pure (some (← overlayTerm g))
  | "TRIM" => pure (some (← trimTerm g))
  | "INTERVAL" =>
    let t ← if d.needsIntervalUnit then g.anyExpr else operand
    pure (some (.unseen ("INTERVAL " ++ t.text ++ (← intervalUnits))))
  | "ARRAY" =>
    if ← symbol "[" then pure (some (← arrayTerm g "ARRAY["))
    else if ← symbol "(" then
      let q ← g.query
      needSymbol ")"
      pure (some ⟨name.text ++ "(" ++ q.text ++ ")",
        .call name.text [.scalarQuery q.node] false false false, .call⟩)
    else pure none
  | "NOT" => pure (some (← notTerm g))
  | "MATCH" => if d.hasTextSearch then pure (some (← textSearchTerm)) else pure none
  | _ => pure none

/-- A word that begins no form: a call, a string with its character set, or a column. -/
def wordTerm (g : Grammar) (name : Ident) : Reader Term := do
  if ← atSymbol "(" then callOf g [name]
  else
    match name.value.startsWith "_", ← peek with
    | true, some { token := .string kind s, .. } =>
      if kind = .single || kind = .double || kind = .hex then
        skip
        pure (.unseen (name.text ++ " " ++ stringText kind s))
      else pure (.ofName [name])
    | _, _ => pure (.ofName [name])

/-- A literal after the name of its type, as in `DATE '2024-01-01'`. -/
def typedTerm (g : Grammar) (operand : Reader Term) : Reader (Option Term) :=
  attempt do
    let type ← dataType
    if type.isInterval then
      let d ← dialect
      let t ← if d.needsIntervalUnit then g.anyExpr else operand
      pure (Term.unseen ("INTERVAL " ++ t.text ++ (← intervalUnits)))
    else if type.isCustom then expected "a known type"
    else
      let v ← value
      pure (.plain (type.text ++ " " ++ v.text) (.cast v.expr type.text))

/-- What stands in parentheses, after the opening one: a query, an expression or a row of
expressions. -/
def parenTerm (g : Grammar) : Reader Term := do
  if ← atOneOf ["SELECT", "WITH"] then
    let q ← g.query
    needSymbol ")"
    pure ⟨"(" ++ q.text ++ ")", .scalarQuery q.node, .subquery⟩
  else
    let terms ← within false g.exprs
    needSymbol ")"
    match terms with
    | [t] => pure t.nested
    | _ => pure (.unseen ("(" ++ termsText terms ++ ")"))

def wordOperand (g : Grammar) (operand : Reader Term) (name : Ident) (key : String) :
    Reader Term := do
  match ← typedTerm g operand with
  | some t => pure t
  | none =>
    let here ← outcome (do
      skip
      keywordTerm g operand name key)
    match here with
    | .ok (some t) => pure t
    | .ok none => wordTerm g name
    | .error r =>
      if isReservedExpression (← dialect) key then refuse r
      else
        match ← outcome (do
          skip
          wordTerm g name) with
        | .ok t => pure t
        | .error _ => refuse r

/-- The operators that may stand in front of an operand, with how tightly they bind. -/
def signOf? (d : Dialect) (s : String) : Option (UnaryOp × String × Precedence) :=
  match s with
  | "-" => some (.minus, "-", .mulDiv)
  | "+" => some (.plus, "+", .mulDiv)
  | "~" => some (.other "~", "~", .plusMinus)
  | "!!" | "|/" | "||/" | "@" => if d = .postgresql then some (.other s, s, .plusMinus) else none
  | _ => none

/-- An operand. The fuel bounds the intervals of intervals. -/
def operandFrom (g : Grammar) : Nat → Reader Term
  | 0 => expected "an expression"
  | fuel + 1 => do
    match ← peek with
    | none => expected "an expression"
    | some lexeme =>
      match lexeme.token with
      | .word s q => wordOperand g (operandFrom g fuel) ⟨s, q⟩ lexeme.key
      | .number _ _ | .string _ _ | .dollar _ _ | .parameter _ => value
      | .symbol s =>
        let d ← dialect
        match signOf? d s with
        | some (op, mark, precedence) =>
          skip
          pure (unaryTerm op mark "" (← g.expr (precedence.tightness d)))
        | none =>
          match s with
          | "(" => skip; parenTerm g
          | "[" => skip; arrayTerm g "["
          | ":" | "@" => value
          | _ => expected "an expression"
      | _ => expected "an expression"

/-- An operand with its fields, its elements and its collation. -/
def operand (g : Grammar) : Reader Term := do
  let t ← operandFrom g ((← left) + 1)
  let t ← accessed g t
  if ← only (!(← inColumn)) (keyword "COLLATE") then
    pure (.unseen (t.text ++ " COLLATE " ++ namesText (← objectName)))
  else pure t

end SqlAudit.Sql
