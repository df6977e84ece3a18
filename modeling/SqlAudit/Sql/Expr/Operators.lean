import SqlAudit.Sql.Expr.Operand

/-! # Operators between operands

An expression is an operand followed by operators with their right sides, each as long as it binds
more tightly than what stands around it.
-/

namespace SqlAudit.Sql

open Reader

/-- The operator that a symbol is, with the text for it. -/
def symbolOp? (d : Dialect) (s : String) : Option (String × BinaryOp) :=
  let other : Option (String × BinaryOp) := some (s, .other s)
  match s with
  | "=" | "==" => some ("=", .eq)
  | "<>" => some (s, .notEq)
  | "<" => some (s, .lt)
  | "<=" => some (s, .ltEq)
  | ">" => some (s, .gt)
  | ">=" => some (s, .gtEq)
  | "+" => some (s, .plus)
  | "-" => some (s, .minus)
  | "*" => some (s, .multiply)
  | "/" => some (s, .divide)
  | "%" => some (s, .modulo)
  | "||" => some (s, .concat)
  | "<=>" | ":=" | "|" | "^" | "&" | "//" | "~" | "~*" | "!~" | "!~*" | "~~" | "~~*" | "!~~"
  | "!~~*" | "->" | "->>" | "#>" | "#>>" | "@>" | "<@" | "#-" | "@?" | "@@" | "?" | "?&"
  | "?|" => other
  | "<<" | ">>" => if d.hasShifts then other else none
  | "#" => if d = .postgresql then other else none
  | "&&" | "^@" => if d = .generic || d = .postgresql then other else none
  | _ => none

def operatorOf? (d : Dialect) (lexeme : Lexeme) : Option (String × BinaryOp) :=
  match lexeme.token with
  | .symbol s => symbolOp? d s
  | .operator s => some (s, .other s)
  | _ =>
    match lexeme.key with
    | "AND" => some ("AND", .and)
    | "OR" => some ("OR", .or)
    | "XOR" => some ("XOR", .other "XOR")
    | "OVERLAPS" => some ("OVERLAPS", .other "OVERLAPS")
    | _ => none

/-- The operators that may compare with `ANY`, `SOME` or `ALL` of some values. -/
def comparesAll (text : String) : Bool :=
  ["=", "<>", "<", "<=", ">", ">=", "~", "~*", "!~", "!~*", "~~", "~~*", "!~~",
    "!~~*"].contains text

/-- The name of a token that binds like an operator and is none in this dialect. -/
def strayName (lexeme : Lexeme) : String :=
  match lexeme.token with
  | .symbol "&&" => "Overlap"
  | .symbol "#" => "Sharp"
  | .symbol "<<" => "ShiftLeft"
  | .symbol ">>" => "ShiftRight"
  | .symbol "!" => "ExclamationMark"
  | .word s _ =>
    "Word(Word \x7b value: \"" ++ s ++ "\", quote_style: None, keyword: " ++ lexeme.key ++ " \x7d)"
  | token => token.text

def operatorTerm (g : Grammar) (t : Term) (tightness : Nat) (place : Position) (text : String)
    (op : BinaryOp) :
    Reader Term := do
  match ← oneOf ["ANY", "ALL", "SOME"] with
  | some key =>
    let query : Bool ← ahead do
      needSymbol "("
      atOneOf ["SELECT", "WITH"]
    let right ← if query then g.expr tightness
      else do
        needSymbol "("
        let right ← g.expr tightness
        needSymbol ")"
        pure right
    if comparesAll text then
      let shown := if right.shape = .subquery then right.text else "(" ++ right.text ++ ")"
      pure (.unseen (t.text ++ " " ++ text ++ " " ++ key ++ shown))
    else
      refuse (.wrong
        ("Expected one of [=, >, <, =>, =<, !=, ~, ~*, !~, !~*, ~~, ~~*, !~~, !~~*] as " ++
          "comparison operator, found: " ++ text) (some place))
  | none =>
    let right ← g.expr tightness
    pure (.plain (t.text ++ " " ++ text ++ " " ++ right.text) (.binary t.expr op right.expr))

def isTerm (g : Grammar) (t : Term) : Reader Term := do
  if ← keyword "NULL" then pure (.plain (t.text ++ " IS NULL") (.isNull t.expr false))
  else if ← keywords ["NOT", "NULL"] then
    pure (.plain (t.text ++ " IS NOT NULL") (.isNull t.expr true))
  else if ← keyword "TRUE" then pure (.unseen (t.text ++ " IS TRUE"))
  else if ← keywords ["NOT", "TRUE"] then pure (.unseen (t.text ++ " IS NOT TRUE"))
  else if ← keyword "FALSE" then pure (.unseen (t.text ++ " IS FALSE"))
  else if ← keywords ["NOT", "FALSE"] then pure (.unseen (t.text ++ " IS NOT FALSE"))
  else if ← keyword "UNKNOWN" then pure (.unseen (t.text ++ " IS UNKNOWN"))
  else if ← keywords ["NOT", "UNKNOWN"] then pure (.unseen (t.text ++ " IS NOT UNKNOWN"))
  else if ← keywords ["DISTINCT", "FROM"] then
    pure (.unseen (t.text ++ " IS DISTINCT FROM " ++ (← g.anyExpr).text))
  else if ← keywords ["NOT", "DISTINCT", "FROM"] then
    pure (.unseen (t.text ++ " IS NOT DISTINCT FROM " ++ (← g.anyExpr).text))
  else
    let negated ← keyword "NOT"
    let form ← oneOf ["NFC", "NFD", "NFKC", "NFKD"]
    if ← keyword "NORMALIZED" then
      pure (.unseen (t.text ++ " IS " ++ (if negated then "NOT " else "") ++
        clause "" (form.map (· ++ " ")) ++ "NORMALIZED"))
    else expected "[NOT] NULL | TRUE | FALSE | DISTINCT | [form] NORMALIZED FROM after IS"

def inTerm (g : Grammar) (t : Term) (negated : Bool) : Reader Term := do
  let opening := t.text ++ (if negated then " NOT IN " else " IN ")
  if ← keyword "UNNEST" then
    let array ← parenthesised g.anyExpr
    pure (.unseen (opening ++ "UNNEST(" ++ array.text ++ ")"))
  else
    needSymbol "("
    match ← attempt g.query with
    | some q =>
      needSymbol ")"
      pure (.plain (opening ++ "(" ++ q.text ++ ")") (.inQuery t.expr q.node negated))
    | none =>
      let items ← if (← dialect).allowsEmptyIn then commas0 ")" g.anyExpr else g.exprs
      needSymbol ")"
      pure (.plain (opening ++ "(" ++ termsText items ++ ")")
        (.inList t.expr (items.map Term.expr) negated))

def escapeText : Reader String := do
  if ← keyword "ESCAPE" then pure (" ESCAPE " ++ (← value).text) else pure ""

/-- The tests that `NOT` may negate; the keyword is next. -/
def testTerm (g : Grammar) (t : Term) : Reader Term := do
  let d ← dialect
  let negated ← keyword "NOT"
  let no := if negated then "NOT " else ""
  let likeSide := g.expr (Precedence.like.tightness d)
  match ← oneOf ["REGEXP", "RLIKE"] with
  | some key => pure (.unseen (t.text ++ " " ++ no ++ key ++ " " ++ (← likeSide).text))
  | none =>
    let null ← only (!(← inColumn)) (keyword "NULL")
    if negated && null then pure (.plain (t.text ++ " IS NOT NULL") (.isNull t.expr true))
    else if ← keyword "IN" then inTerm g t negated
    else if ← keyword "BETWEEN" then
      let side := g.expr (Precedence.between.tightness d)
      let low ← side
      needKeyword "AND"
      let high ← side
      pure (.plain (t.text ++ " " ++ no ++ "BETWEEN " ++ low.text ++ " AND " ++ high.text)
        (.between t.expr low.expr high.expr negated))
    else
      match ← oneOf ["LIKE", "ILIKE"] with
      | some key =>
        let any ← keyword "ANY"
        let pattern ← likeSide
        let escape ← escapeText
        pure (.plain
          (t.text ++ " " ++ no ++ key ++ " " ++ (if any then "ANY " else "") ++
            pattern.text ++ escape)
          (.like t.expr pattern.expr negated (key == "ILIKE")))
      | none =>
        if ← keywords ["SIMILAR", "TO"] then
          let pattern ← likeSide
          pure (.unseen (t.text ++ " " ++ no ++ "SIMILAR TO " ++ pattern.text ++ (← escapeText)))
        else expected "IN or BETWEEN after NOT"

/-- An operator with its name in parentheses, after the keyword `OPERATOR`. -/
def namedOperator : Reader String := do
  needSymbol "("
  let part : Reader String := do
    match ← peek with
    | some lexeme =>
      skip
      pure lexeme.token.text
    | none => expected ")"
  let parts ← separatedFrom part (symbol ".") (← left)
  needSymbol ")"
  pure ("OPERATOR(" ++ Text.joinWith "." parts ++ ")")

/-- A term, the next operator and its right side. The operator is known to bind with a given
tightness. -/
def extended (g : Grammar) (t : Term) (tightness : Nat) : Reader Term := do
  let d ← dialect
  match ← peek with
  | none => expected "an expression"
  | some lexeme =>
    let loose (key : String) : Reader Term := do
      skip
      let right ← g.anyExpr
      pure (.plain (t.text ++ " " ++ key ++ " " ++ right.text)
        (.binary t.expr (.other key) right.expr))
    match d, lexeme.key with
    | .sqlite, "REGEXP" | .sqlite, "MATCH" | .mysql, "DIV" => loose lexeme.key
    | _, _ =>
      match operatorOf? d lexeme with
      | some (text, op) =>
        skip
        operatorTerm g t tightness lexeme.start text op
      | none =>
        let stray : Reader Term :=
          refuse (.wrong ("No infix parser for token " ++ strayName lexeme) (some lexeme.start))
        match lexeme.token, lexeme.key with
        | _, "IS" => skip; isTerm g t
        | _, "AT" =>
          skip
          needKeywords ["TIME", "ZONE"]
          pure (.unseen (t.text ++ " AT TIME ZONE " ++ (← g.expr tightness).text))
        | _, "NOT" | _, "IN" | _, "BETWEEN" | _, "LIKE" | _, "ILIKE" | _, "SIMILAR"
        | _, "REGEXP" | _, "RLIKE" =>
          testTerm g t
        | _, "NOTNULL" =>
          skip
          pure (.plain (t.text ++ " IS NOT NULL") (.isNull t.expr true))
        | _, "MEMBER" =>
          skip
          if ← keyword "OF" then
            let array ← parenthesised g.anyExpr
            pure (.unseen (t.text ++ " MEMBER OF(" ++ array.text ++ ")"))
          else expected "OF after MEMBER"
        | _, "OPERATOR" =>
          if d = .generic || d = .postgresql then
            skip
            let text ← namedOperator
            operatorTerm g t tightness lexeme.start text (.other text)
          else stray
        | .symbol "::", _ =>
          skip
          let type ← dataType
          pure (.plain (t.text ++ "::" ++ type.text) (.cast t.expr type.text))
        | .symbol "!", _ =>
          skip
          pure (.plain (t.text ++ "!") (.unary (.other "!") t.expr))
        | _, _ => stray

/-- An expression whose operators bind more tightly than a number. -/
def exprAbove (g : Grammar) (tightness : Nat) : Reader Term := do
  let first ← operand g
  grow (fun t => do
    let next ← nextTightness
    if next ≤ tightness then pure none
    else if ← atSymbol "." then pure none
    else pure (some (← extended g t next))) first

end SqlAudit.Sql
