import SqlAudit.Sql.DataType
import SqlAudit.Sql.Expr.Call
import SqlAudit.Sql.Keyword

/-! # Relations and joins

What stands after `FROM`: tables, queries in parentheses, functions, and joins of these.
-/

namespace SqlAudit.Sql

open Reader

/-! ## Aliases -/

/-- An alias, with `AS` if it was written. The test says which unquoted words may be one without
`AS`. -/
def aliasWhere (isAlias : String → Bool) : Reader (Option (Bool × Ident)) := do
  let explicit ← keyword "AS"
  let found : Option Ident := match ← peek with
    | some lexeme =>
      match lexeme.token with
      | .word s q => if explicit || isAlias lexeme.key then some ⟨s, q⟩ else none
      | token => Ident.ofToken? token
    | none => none
  match found with
  | some i =>
    skip
    pure (some (explicit, i))
  | none => if explicit then expected "an identifier after AS" else pure none

/-- Columns with their types in parentheses after an alias, as text. -/
def aliasColumns : Reader String := do
  if ← symbol "(" then
    let columns ← commas do
      let name ← ident
      let type ← attempt dataType
      pure (name.text ++ clause " " (type.map DeclaredType.text))
    needSymbol ")"
    pure (" (" ++ commaText columns ++ ")")
  else pure ""

def tableAlias? : Reader (Option (Phrase String)) := do
  match ← aliasWhere (isTableAlias (← dialect)) with
  | some (explicit, name) =>
    pure (some ⟨(if explicit then "AS " else "") ++ name.text ++ (← aliasColumns), name.value⟩)
  | none => pure none

/-! ## Rows -/

def valuesRows (g : Grammar) (key : String) (allowEmpty : Bool) :
    Reader (Phrase (List (List Expr))) := do
  let row : Reader (Bool × List Term) := do
    let explicit ← keyword "ROW"
    needSymbol "("
    if ← only allowEmpty (symbol ")") then pure (explicit, [])
    else
      let terms ← g.exprs
      needSymbol ")"
      pure (explicit, terms)
  let rows ← commas row
  let opening := if rows.any Prod.fst then "ROW(" else "("
  pure ⟨key ++ " " ++ commaText (rows.map fun r => opening ++ termsText r.2 ++ ")"),
    rows.map fun r => r.2.map Term.expr⟩

/-! ## Relations -/

/-- A relation while it is read: its alias is known apart, since one may still be given after
parentheses. -/
structure Source where
  /-- The text before the alias. -/
  head : String
  aliasName : Option (Phrase String)
  /-- The text after the alias. -/
  tail : String
  /-- What the review sees, from the whole text and the alias. -/
  relation : String → Option String → Relation
  /-- A join in parentheses. -/
  isJoin : Bool

def Source.phrase (s : Source) : Phrase Relation :=
  let text := s.head ++ clause " " (s.aliasName.map Phrase.text) ++ s.tail
  ⟨text, s.relation text (s.aliasName.map Phrase.node)⟩

def derivedTable (g : Grammar) (opening : String) : Reader Source := do
  let q ← g.query
  needSymbol ")"
  pure ⟨opening ++ "(" ++ q.text ++ ")", ← tableAlias?, "",
    fun _ aliasName => .derived q.node aliasName, false⟩

/-- Arguments of a table function up to the closing parenthesis, as text. -/
def tableArguments (g : Grammar) : Reader String := do
  if ← symbol ")" then pure "()"
  else
    let given ← commas (argument g)
    needSymbol ")"
    pure ("(" ++ phrasesText given ++ ")")

/-- Hints which index to use, as in MySQL, as text. -/
def indexHints : Reader String := do
  let hint : Reader String := do
    let use ← needOneOf ["USE", "IGNORE", "FORCE"]
    let kind ← needOneOf ["INDEX", "KEY"]
    let purpose ← if ← keyword "FOR" then
        match ← oneOfPhrases [["JOIN"], ["ORDER", "BY"], ["GROUP", "BY"]] with
        | some phrase => pure (" FOR " ++ phrase)
        | none => expected "JOIN, ORDER BY or GROUP BY"
      else pure ""
    let names ← parenthesised (commas0 ")" ident)
    pure (use ++ " " ++ kind ++ purpose ++ " (" ++ identsText names ++ ")")
  pure (String.join ((← many (attempt hint)).map (" " ++ ·)))

def withHints (g : Grammar) : Reader String := do
  if (← keyAt 0) == "WITH" && (← peekAt 1).any (isSymbol "(") then
    skip
    let hints ← parenthesised g.exprs
    pure (" WITH (" ++ termsText hints ++ ")")
  else pure ""

/-- A table or a table function by its name. -/
def namedTable (g : Grammar) : Reader Source := do
  let d ← dialect
  let name ← objectName
  let partitions ← if ← only d.declaresIndexes (keyword "PARTITION") then do
      let names ← parenthesised (commas ident)
      pure (" PARTITION (" ++ identsText names ++ ")")
    else pure ""
  let given ← if ← symbol "(" then pure (some (← tableArguments g)) else pure none
  let ordinality ← if ← keywords ["WITH", "ORDINALITY"] then pure " WITH ORDINALITY" else pure ""
  let aliasName ← tableAlias?
  let hints ← if d = .mysql then indexHints else pure ""
  let more ← withHints g
  pure ⟨namesText name ++ partitions ++ given.getD "" ++ ordinality, aliasName, hints ++ more,
    fun _ aliasName =>
      if given.isSome then .function (namesText name) aliasName
      else .table (objectNameOf name) aliasName, false⟩

/-- A relation that the review sees as a function, with its whole text. -/
def functionTable (head tail : String) (aliasName : Option (Phrase String)) : Source :=
  ⟨head, aliasName, tail, fun text _ => .function text none, false⟩

def unnestTable (g : Grammar) : Reader Source := do
  let arrays ← parenthesised g.exprs
  let ordinality ← keywords ["WITH", "ORDINALITY"]
  let aliasName ← tableAlias?
  let offset ← if ← keywords ["WITH", "OFFSET"] then do
      let name ← aliasWhere isColumnAlias
      pure (" WITH OFFSET" ++ clause " AS " (name.map fun n => n.2.text))
    else pure ""
  pure (functionTable
    ("UNNEST(" ++ termsText arrays ++ ")" ++ (if ordinality then " WITH ORDINALITY" else ""))
      offset aliasName)

/-- `LATERAL` with a query or a function, after the keyword. -/
def lateralTable (g : Grammar) : Reader Source := do
  if ← symbol "(" then derivedTable g "LATERAL "
  else
    let name ← objectName
    needSymbol "("
    let given ← tableArguments g
    pure (functionTable ("LATERAL " ++ namesText name ++ given) "" (← tableAlias?))

/-! ## Joins -/

/-- The condition of a join, as text and as the review sees it. -/
def joinCondition (g : Grammar) (natural : Bool) : Reader (Phrase (Option Expr)) := do
  if natural then pure ⟨"", none⟩
  else if ← keyword "ON" then
    let t ← g.anyExpr
    pure ⟨" ON " ++ t.text, some t.expr⟩
  else if ← keyword "USING" then
    let columns ← nameList
    pure ⟨" USING(" ++ commaText (columns.map namesText) ++ ")", none⟩
  else pure ⟨"", none⟩

/-- The kind of a join with a condition, if a join is next. -/
def joinKind (natural : Bool) : Reader (Option String) := do
  match ← keyAt 0 with
  | "JOIN" => skip; pure (some "JOIN")
  | "INNER" => skip; needKeyword "JOIN"; pure (some "INNER JOIN")
  | "LEFT" => skip; sided "LEFT"
  | "RIGHT" => skip; sided "RIGHT"
  | "ANTI" => skip; needKeyword "JOIN"; pure (some "ANTI JOIN")
  | "SEMI" => skip; needKeyword "JOIN"; pure (some "SEMI JOIN")
  | "FULL" =>
    skip
    let _ ← keyword "OUTER"
    needKeyword "JOIN"
    pure (some "FULL JOIN")
  | "OUTER" => expected "LEFT, RIGHT, or FULL"
  | "STRAIGHT_JOIN" => skip; pure (some "STRAIGHT_JOIN")
  | _ => if natural then expected "a join type after NATURAL" else pure none
where
  /-- The rest of a left or right join. -/
  sided (side : String) : Reader (Option String) := do
    match ← oneOf ["OUTER", "SEMI", "ANTI", "JOIN"] with
    | some "JOIN" => pure (some (side ++ " JOIN"))
    | some kind =>
      needKeyword "JOIN"
      pure (some (side ++ " " ++ kind ++ " JOIN"))
    | none => refuse (.wrong ("expected OUTER, SEMI, ANTI or JOIN after " ++ side) none)

/-- A join, if one is next. `relation` reads a relation. -/
def join? (g : Grammar) (relation : Reader Source) : Reader (Option (Phrase Join)) := do
  let everywhere := if ← keyword "GLOBAL" then "GLOBAL " else ""
  if ← keyword "CROSS" then
    if ← keyword "JOIN" then
      let r := (← relation).phrase
      let condition ← if (← dialect) = .mysql then joinCondition g false else pure ⟨"", none⟩
      pure (some ⟨everywhere ++ "CROSS JOIN " ++ r.text ++ condition.text,
        ⟨r.node, condition.node⟩⟩)
    else if ← keyword "APPLY" then
      let r := (← relation).phrase
      pure (some ⟨everywhere ++ "CROSS APPLY " ++ r.text, ⟨r.node, none⟩⟩)
    else expected "JOIN or APPLY after CROSS"
  else if ← keyword "OUTER" then
    needKeyword "APPLY"
    let r := (← relation).phrase
    pure (some ⟨everywhere ++ "OUTER APPLY " ++ r.text, ⟨r.node, none⟩⟩)
  else if ← keyword "ASOF" then
    needKeyword "JOIN"
    let r := (← relation).phrase
    needKeyword "MATCH_CONDITION"
    let nearest ← parenthesised g.anyExpr
    let condition ← joinCondition g false
    pure (some ⟨everywhere ++ "ASOF JOIN " ++ r.text ++ " MATCH_CONDITION (" ++
      nearest.text ++ ")" ++ condition.text, ⟨r.node, condition.node⟩⟩)
  else
    let natural ← keyword "NATURAL"
    match ← joinKind natural with
    | none => pure none
    | some kind =>
      let r := (← relation).phrase
      let condition ← joinCondition g natural
      pure (some ⟨everywhere ++ (if natural then "NATURAL " else "") ++ kind ++ " " ++ r.text ++
        condition.text, ⟨r.node, condition.node⟩⟩)

/-- A relation with the joins that follow it. -/
structure Joined where
  source : Source
  joins : List (Phrase Join)

def Joined.phrase (j : Joined) : Phrase FromItem :=
  ⟨j.source.phrase.text ++ String.join (j.joins.map fun join => " " ++ join.text),
   ⟨j.source.phrase.node, j.joins.map Phrase.node⟩⟩

def joined (g : Grammar) (relation : Reader Source) : Reader Joined := do
  let source ← relation
  pure ⟨source, ← many (join? g relation)⟩

/-! ## Parentheses -/

/-- A join in parentheses, which counts as one relation; its alias is only text. -/
def joinTable (j : Joined) (aliasName : Option (Phrase String)) : Source :=
  let item := j.phrase
  ⟨"(" ++ item.text ++ ")", aliasName, "", fun _ _ => .nested item.node, true⟩

/-- What stands in parentheses if it is no query, after the opening one. Parentheses around a lone
table are dropped where they are allowed. -/
def parenTable (g : Grammar) (relation : Reader Source) : Reader Source := do
  let inner ← joined g relation
  if !inner.joins.isEmpty || inner.source.isJoin then
    needSymbol ")"
    pure (joinTable inner (← tableAlias?))
  else if (← dialect) = .generic then
    needSymbol ")"
    match ← tableAlias?, inner.source.aliasName with
    | some _, some old => refuse (.wrong ("duplicate alias " ++ old.text) none)
    | some new, none => pure { inner.source with aliasName := some new }
    | none, _ => pure inner.source
  else expected "joined table"

/-- A relation. The fuel bounds the parentheses around it. -/
def relationFrom (g : Grammar) : Nat → Reader Source
  | 0 => expected "identifier"
  | fuel + 1 => do
    let d ← dialect
    if ← keyword "LATERAL" then lateralTable g
    else if ← keyword "TABLE" then
      let t ← parenthesised g.anyExpr
      pure (functionTable ("TABLE(" ++ t.text ++ ")") "" (← tableAlias?))
    else if ← symbol "(" then
      match ← attempt (derivedTable g "") with
      | some source => pure source
      | none => parenTable g (relationFrom g fuel)
    else if d = .generic && (← keyAt 0) == "VALUES" && (← peekAt 1).any (isSymbol "(") then
      skip
      let rows ← valuesRows g "VALUES" false
      pure ⟨"(" ++ rows.text ++ ")", ← tableAlias?, "",
        fun _ aliasName => .derived ⟨[], .values rows.node, [], none, none⟩ aliasName, false⟩
    else if ← only d.hasUnnest (keyword "UNNEST") then unnestTable g
    else namedTable g

def relation (g : Grammar) : Reader Source := do
  relationFrom g ((← left) + 1)

def fromItem (g : Grammar) : Reader (Phrase FromItem) := do
  pure (← joined g (relation g)).phrase

def fromItems (g : Grammar) : Reader (List (Phrase FromItem)) :=
  commas (fromItem g)

end SqlAudit.Sql
