import SqlAudit.Sql.Change

/-! # Queries

A query has a body of SELECT blocks and set operations, an order, a limit and named queries in
front. Intersections bind more tightly than unions and differences.
-/

namespace SqlAudit.Sql

open Reader

/-! ## Bodies -/

/-- `TABLE name`, after the keyword: all rows of a table. Three lexemes are taken even if the name
has one. -/
def wholeTable : Reader (Phrase Body) := do
  let first ← next
  let second ← next
  let third ← next
  let word (what : String) (found : Option Lexeme) : Reader String :=
    match found with
    | some { token := .word s _, .. } => pure s
    | _ => refuse (.expected what found)
  let parts ← if second.any (isSymbol ".") then do
      let schema ← word "Schema name" first
      let table ← word "Table name" third
      pure [schema, table]
    else pure [← word "Table name" first]
  pure ⟨"TABLE " ++ Text.joinWith "." parts,
    .select ⟨false, [.all], [⟨.table ⟨parts⟩ none, []⟩], none, [], none⟩⟩

/-- A body without set operations. -/
def simpleBody (g : Grammar) : Reader (Phrase Body) := do
  let d ← dialect
  if (← atKeyword "SELECT") || (d = .generic && (← atKeyword "FROM")) then
    let block ← selectBlock g
    pure ⟨block.text, .select block.node⟩
  else if ← symbol "(" then
    let q ← g.query
    needSymbol ")"
    pure ⟨"(" ++ q.text ++ ")", .query q.node⟩
  else
    match ← oneOf ["VALUES", "VALUE"] with
    | some key =>
      let rows ← valuesRows g key (d = .mysql)
      pure ⟨rows.text, .values rows.node⟩
    | none =>
      if ← keyword "TABLE" then wholeTable
      else expected "SELECT, VALUES, or a subquery in the query body"

/-- How the rows of a set operation are kept: as text, and whether all are. -/
def setQuantifier : Reader (String × Bool) := do
  if ← keywords ["DISTINCT", "BY", "NAME"] then pure (" DISTINCT BY NAME", false)
  else if ← keywords ["BY", "NAME"] then pure (" BY NAME", false)
  else if ← keyword "ALL" then
    if ← keywords ["BY", "NAME"] then pure (" ALL BY NAME", true) else pure (" ALL", true)
  else if ← keyword "DISTINCT" then pure (" DISTINCT", false)
  else pure ("", false)

/-- One of some set operations and its right side, if it is next. -/
def setOperation? (keys : List String) (right : Reader (Phrase Body)) (body : Phrase Body) :
    Reader (Option (Phrase Body)) := do
  match ← oneOf keys with
  | some key =>
    let (quantifier, all) ← setQuantifier
    let other ← right
    let op : SetOp := match key with
      | "UNION" => .union
      | "INTERSECT" => .intersect
      | _ => .except
    pure (some ⟨body.text ++ " " ++ key ++ quantifier ++ " " ++ other.text,
      .setOperation op all body.node other.node⟩)
  | none => pure none

/-- Bodies with intersections between them. -/
def intersections (g : Grammar) (body : Phrase Body) : Reader (Phrase Body) :=
  grow (setOperation? ["INTERSECT"] (simpleBody g)) body

def queryBody (g : Grammar) : Reader (Phrase Body) := do
  let operand : Reader (Phrase Body) := do
    let body ← simpleBody g
    intersections g body
  grow (setOperation? ["UNION", "EXCEPT", "MINUS"] operand) (← operand)

/-! ## Order and limit -/

structure Paging where
  text : String
  limit : Option Expr
  offset : Option Expr

def offset? (g : Grammar) : Reader (Option Term) := do
  if ← keyword "OFFSET" then
    let t ← g.anyExpr
    let rows ← oneOf ["ROW", "ROWS"]
    pure (some { t with text := t.text ++ clause " " rows })
  else pure none

/-- The limit and the offset of a query. `LIMIT ALL` is no limit. -/
def paging (g : Grammar) : Reader Paging := do
  let d ← dialect
  let early ← offset? g
  if ← keyword "LIMIT" then
    let limit ← if ← keyword "ALL" then pure none else pure (some (← g.anyExpr))
    match limit, ← only (d.hasLimitComma && early.isNone && limit.isSome) (symbol ",") with
    | some first, true =>
      let second ← g.anyExpr
      pure ⟨" LIMIT " ++ first.text ++ ", " ++ second.text, some second.expr, some first.expr⟩
    | _, _ =>
      let by_ ← if ← only (d = .generic) (keyword "BY") then pure (some (termsText (← g.exprs)))
        else pure none
      let late ← if early.isNone then offset? g else pure early
      pure ⟨clause " LIMIT " (limit.map Term.text) ++ clause " OFFSET " (late.map Term.text) ++
        clause " BY " by_, limit.map Term.expr, late.map Term.expr⟩
  else pure ⟨clause " OFFSET " (early.map Term.text), none, early.map Term.expr⟩

/-- `FETCH` with its number, if it is next, as text. -/
def fetchText : Reader String := do
  if ← keyword "FETCH" then
    let _ ← oneOf ["FIRST", "NEXT"]
    let quantity ← if (← oneOf ["ROW", "ROWS"]).isSome then pure ""
      else do
        let t ← value
        let percent := if ← keyword "PERCENT" then " PERCENT" else ""
        let _ ← oneOf ["ROW", "ROWS"]
        pure (" " ++ t.text ++ percent)
    let extent ← oneOfPhrases [["ONLY"], ["WITH", "TIES"]]
    pure (" FETCH FIRST" ++ quantity ++ " ROWS " ++ extent.getD "ONLY")
  else pure ""

/-- A lock on the rows, if one is next, as text. -/
def lock? : Reader (Option String) := do
  if ← keyword "FOR" then
    let kind ← needOneOf ["UPDATE", "SHARE"]
    let table ← if ← keyword "OF" then pure (some (namesText (← objectName))) else pure none
    let wait ← oneOfPhrases [["NOWAIT"], ["SKIP", "LOCKED"]]
    pure (some (" FOR " ++ kind ++ clause " OF " table ++ clause " " wait))
  else pure none

/-! ## Queries -/

def cte (g : Grammar) : Reader (Phrase Cte) := do
  let name ← ident
  let columns ← if ← atKeyword "AS" then pure "" else aliasColumns
  needKeyword "AS"
  let materialized ← if (← dialect) = .postgresql then
      oneOfPhrases [["MATERIALIZED"], ["NOT", "MATERIALIZED"]]
    else pure none
  let q ← parenthesised g.query
  let source ← if ← keyword "FROM" then pure (some (← ident).text) else pure none
  pure ⟨name.text ++ columns ++ " AS " ++ clause "" (materialized.map (· ++ " ")) ++ "(" ++
    q.text ++ ")" ++ clause " FROM " source, ⟨name.value, q.node⟩⟩

def ctes (g : Grammar) : Reader (Phrase (List Cte)) := do
  if ← keyword "WITH" then
    let recursive := if ← keyword "RECURSIVE" then "RECURSIVE " else ""
    let named ← commas (cte g)
    pure ⟨"WITH " ++ recursive ++ phrasesText named ++ " ", named.map Phrase.node⟩
  else pure ⟨"", []⟩

/-- A change of rows in the place of a query, if one is next, as text. -/
def changeText? (g : Grammar) : Reader (Option String) := do
  if ← keyword "INSERT" then pure (some (← insertStatement g "INSERT").text)
  else if ← keyword "UPDATE" then pure (some (← updateStatement g).text)
  else if ← keyword "DELETE" then pure (some (← deleteStatement g).text)
  else if ← keyword "MERGE" then pure (some (← mergeText g))
  else pure none

/-- A query. The review does not see a change of rows that stands in its place. -/
def queryWith (g : Grammar) : Reader (Phrase Query) := do
  let named ← ctes g
  match ← changeText? g with
  | some text => pure ⟨named.text ++ text, ⟨named.node, .values [], [], none, none⟩⟩
  | none =>
    let body ← queryBody g
    let order ← if ← keywords ["ORDER", "BY"] then commas (sortKey g) else pure []
    let pages ← paging g
    let fetch ← fetchText
    let locks ← many lock?
    let orderText := if order.isEmpty then "" else " ORDER BY " ++ phrasesText order
    pure
      ⟨named.text ++ body.text ++ orderText ++ pages.text ++ fetch ++ String.join locks,
       ⟨named.node, body.node, order.map Phrase.node, pages.limit, pages.offset⟩⟩

end SqlAudit.Sql
