import SqlAudit.Sql.Select

/-! # Changes of rows

`INSERT`, `UPDATE`, `DELETE` and `MERGE`. Each reader stands after its keyword.
-/

namespace SqlAudit.Sql

open Reader

/-- What to do if a row breaks a constraint, as SQLite writes it, as text. -/
def conflictText : Reader (Option String) := do
  let actions := ["REPLACE", "ROLLBACK", "ABORT", "FAIL", "IGNORE"]
  if (← keyAt 0) == "OR" && actions.contains (← keyAt 1) then
    skip
    pure ((← oneOf actions).map ("OR " ++ ·))
  else pure none

/-- A value for a column or for several columns at once. -/
def assignment (g : Grammar) : Reader (Phrase Assignment) := do
  let (text, target) ← if ← symbol "(" then do
      let names ← commas objectName
      needSymbol ")"
      let text := "(" ++ commaText (names.map namesText) ++ ")"
      pure (text, text)
    else do
      let name ← objectName
      pure (namesText name, (objectNameOf name).base)
  needSymbol "="
  let value ← g.anyExpr
  pure ⟨text ++ " = " ++ value.text, ⟨target, value.expr⟩⟩

def returningText (g : Grammar) : Reader String := do
  if ← keyword "RETURNING" then pure (" RETURNING " ++ phrasesText (← commas (selectItem g)))
  else pure ""

/-! ## INSERT -/

/-- What to do with rows that exist already, as text. -/
def onInsertText (g : Grammar) : Reader String := do
  if ← keyword "ON" then
    if ← keyword "CONFLICT" then
      let target ← do
        if ← keywords ["ON", "CONSTRAINT"] then
          pure (" ON CONSTRAINT " ++ namesText (← objectName))
        else if ← atSymbol "(" then pure ("(" ++ identsText (← identList) ++ ")")
        else pure ""
      needKeyword "DO"
      if ← keyword "NOTHING" then pure (" ON CONFLICT" ++ target ++ " DO NOTHING")
      else
        needKeywords ["UPDATE", "SET"]
        let assignments ← commas (assignment g)
        let filter ← condition g "WHERE"
        pure (" ON CONFLICT" ++ target ++ " DO UPDATE SET " ++ phrasesText assignments ++
          clause " WHERE " (filter.map Term.text))
    else
      needKeywords ["DUPLICATE", "KEY", "UPDATE"]
      pure (" ON DUPLICATE KEY UPDATE " ++ phrasesText (← commas (assignment g)))
  else pure ""

structure InsertSource where
  columns : List Ident
  /-- The partition, as text. -/
  partition : String
  query : Option (Phrase Query)
  assignments : List (Phrase Assignment)

/-- The columns and the source of inserted rows. -/
def insertSource (g : Grammar) : Reader InsertSource := do
  let d ← dialect
  if ← keywords ["DEFAULT", "VALUES"] then pure ⟨[], "", none, []⟩
  else
    let query : Bool := (← peek).any (isSymbol "(") && (← keyAt 1) == "SELECT"
    let columns ← if query then pure [] else identList? (d = .mysql)
    let partition ← if !query && (← atKeyword "PARTITION") then do
        skip
        pure ("PARTITION (" ++ termsText (← parenthesised g.exprs) ++ ") ")
      else pure ""
    if ← only (d = .mysql || d = .generic) (keyword "SET") then
      pure ⟨columns, partition, none, ← commas (assignment g)⟩
    else pure ⟨columns, partition, some (← g.query), []⟩

def insertStatement (g : Grammar) (key : String) : Reader (Phrase Insert) := do
  let d ← dialect
  let mysql := d = .mysql || d = .generic
  let conflict ← conflictText
  let priority ← if mysql then oneOf ["LOW_PRIORITY", "DELAYED", "HIGH_PRIORITY"] else pure none
  let ignore ← only mysql (keyword "IGNORE")
  let overwrite ← keyword "OVERWRITE"
  let into ← keyword "INTO"
  let table ← keyword "TABLE"
  let name ← objectName
  let aliasName ← if ← only (d = .postgresql) (keyword "AS") then pure (some (← ident).text)
    else pure none
  let source ← insertSource g
  let rowAlias ← if ← only mysql (keyword "AS") then do
      let row ← objectName
      let columns ← identList? false
      pure (" AS " ++ namesText row ++
        (if columns.isEmpty then "" else " (" ++ identsText columns ++ ")"))
    else pure ""
  let on ← onInsertText g
  let returning ← returningText g
  let tableText := namesText name ++ clause " AS " aliasName
  let opening := match conflict with
    | some c => "INSERT " ++ c ++ " INTO " ++ tableText ++ " "
    | none =>
      key ++ clause " " priority ++ (if ignore then " IGNORE" else "") ++
        (if overwrite then " OVERWRITE" else "") ++ (if into then " INTO" else "") ++
        (if table then " TABLE" else "") ++ " " ++ tableText ++ " "
  let columns := if source.columns.isEmpty then "" else "(" ++ identsText source.columns ++ ") "
  let rows := match source.query with
    | some q => q.text
    | none =>
      if !source.assignments.isEmpty then "SET " ++ phrasesText source.assignments
      else if source.columns.isEmpty then "DEFAULT VALUES"
      else ""
  pure
    ⟨opening ++ columns ++ source.partition ++ rows ++ rowAlias ++ on ++ returning,
     ⟨objectNameOf name, source.columns.map Ident.value, source.query.map Phrase.node⟩⟩

/-! ## UPDATE and DELETE -/

def updateStatement (g : Grammar) : Reader (Phrase Update) := do
  let conflict ← conflictText
  let table ← fromItem g
  let early ← if ← keyword "FROM" then pure (some (phrasesText (← fromItems g))) else pure none
  needKeyword "SET"
  let assignments ← commas (assignment g)
  let late ← if ← only early.isNone (keyword "FROM") then pure (some (phrasesText (← fromItems g)))
    else pure none
  let filter ← condition g "WHERE"
  let returning ← returningText g
  let limit ← condition g "LIMIT"
  pure
    ⟨"UPDATE " ++ clause "" (conflict.map (· ++ " ")) ++ table.text ++ clause " FROM " early ++
      " SET " ++ phrasesText assignments ++ clause " FROM " late ++
      clause " WHERE " (filter.map Term.text) ++ returning ++
      clause " LIMIT " (limit.map Term.text),
     ⟨table.node, assignments.map Phrase.node, filter.map Term.expr⟩⟩

def deleteStatement (g : Grammar) : Reader (Phrase Delete) := do
  let d ← dialect
  let (tables, withFrom) ← if ← keyword "FROM" then pure ("", true)
    else if d = .generic then pure ("", false)
    else do
      let names ← commas objectName
      needKeyword "FROM"
      pure (commaText (names.map namesText) ++ " ", true)
  let items ← fromItems g
  let using_ ← if ← keyword "USING" then pure (some (phrasesText (← fromItems g))) else pure none
  let filter ← condition g "WHERE"
  let returning ← returningText g
  let order ← if ← keywords ["ORDER", "BY"] then pure (some (phrasesText (← commas (sortKey g))))
    else pure none
  let limit ← condition g "LIMIT"
  pure
    ⟨"DELETE " ++ tables ++ (if withFrom then "FROM " else "") ++ phrasesText items ++
      clause " USING " using_ ++
      clause " WHERE " (filter.map Term.text) ++ returning ++ clause " ORDER BY " order ++
      clause " LIMIT " (limit.map Term.text),
     ⟨items.map Phrase.node, filter.map Term.expr⟩⟩

/-! ## MERGE -/

/-- What `MERGE` does with a row, as text. -/
def mergeAction (g : Grammar) : Reader String := do
  if ← keyword "INSERT" then
    let columns ← identList? true
    let columnsText := if columns.isEmpty then "" else " (" ++ identsText columns ++ ")"
    if ← keyword "ROW" then pure ("INSERT" ++ columnsText ++ " ROW")
    else
      needKeyword "VALUES"
      pure ("INSERT" ++ columnsText ++ " " ++ (← valuesRows g "VALUES" ((← dialect) = .mysql)).text)
  else if ← keyword "UPDATE" then
    needKeyword "SET"
    pure ("UPDATE SET " ++ phrasesText (← commas (assignment g)))
  else if ← keyword "DELETE" then pure "DELETE"
  else expected "UPDATE, DELETE or INSERT in merge clause"

/-- A case of `MERGE`, if one is next, as text. -/
def mergeCase (g : Grammar) : Reader (Option String) := do
  if ← keyword "WHEN" then
    let no := if ← keyword "NOT" then "NOT " else ""
    needKeyword "MATCHED"
    let side ← oneOfPhrases [["BY", "SOURCE"], ["BY", "TARGET"]]
    let filter ← condition g "AND"
    needKeyword "THEN"
    let action ← mergeAction g
    pure (some ("WHEN " ++ no ++ "MATCHED" ++ clause " " side ++
      clause " AND " (filter.map Term.text) ++ " THEN " ++ action))
  else pure none

def mergeText (g : Grammar) : Reader String := do
  let into := if ← keyword "INTO" then " INTO" else ""
  let table ← relation g
  needKeyword "USING"
  let source ← relation g
  needKeyword "ON"
  let on ← g.anyExpr
  let cases ← many (mergeCase g)
  pure ("MERGE" ++ into ++ " " ++ table.phrase.text ++ " USING " ++ source.phrase.text ++ " ON " ++
    on.text ++ " " ++
    Text.joinWith " " cases ++ (← returningText g))

end SqlAudit.Sql
