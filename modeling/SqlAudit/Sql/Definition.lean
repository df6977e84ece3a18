import SqlAudit.Sql.Constraint

/-! # Definitions

`CREATE TABLE`, `CREATE INDEX` and `CREATE VIEW`. Each reader stands after the keyword for its
object; what stood before it is handed on as text.
-/

namespace SqlAudit.Sql

open Reader

/-! ## Tables -/

/-- The columns and the constraints of a table, in their order. -/
structure TableParts where
  columns : List (Phrase ColumnDef)
  constraints : List ConstraintPhrase

/-- The parts of a table in parentheses, after the opening one. -/
def tablePartsFrom (g : Grammar) : Nat → TableParts → Reader TableParts
  | 0, parts => pure parts
  | fuel + 1, parts => do
    let parts ← match ← tableConstraint? g with
      | some c => pure { parts with constraints := parts.constraints ++ [c] }
      | none =>
        match ← peek with
        | some { token := .word _ _, .. } =>
          pure { parts with columns := parts.columns ++ [← columnDef g] }
        | _ => expected "column name or constraint definition"
    let comma ← symbol ","
    let closed ← atSymbol ")"
    if !comma && !closed then expected "',' or ')' after column definition"
    else if closed && !comma then
      skip
      pure parts
    else tablePartsFrom g fuel parts

def tableParts (g : Grammar) : Reader TableParts := do
  if ← symbol "(" then
    if ← symbol ")" then pure ⟨[], []⟩ else tablePartsFrom g ((← left) + 1) ⟨[], []⟩
  else pure ⟨[], []⟩

def tableOptionNames : List (List String) :=
  [["DEFAULT", "CHARSET"], ["CHARSET"], ["DEFAULT", "CHARACTER", "SET"], ["CHARACTER", "SET"],
   ["DEFAULT", "COLLATE"], ["COLLATE"], ["DATA", "DIRECTORY"], ["INDEX", "DIRECTORY"],
   ["KEY_BLOCK_SIZE"], ["ROW_FORMAT"], ["PACK_KEYS"], ["STATS_AUTO_RECALC"], ["STATS_PERSISTENT"],
   ["STATS_SAMPLE_PAGES"], ["DELAY_KEY_WRITE"], ["COMPRESSION"], ["ENCRYPTION"], ["MAX_ROWS"],
   ["MIN_ROWS"], ["AUTOEXTEND_SIZE"], ["AVG_ROW_LENGTH"], ["CHECKSUM"], ["CONNECTION"],
   ["ENGINE_ATTRIBUTE"], ["PASSWORD"], ["SECONDARY_ENGINE_ATTRIBUTE"], ["INSERT_METHOD"],
   ["AUTO_INCREMENT"]]

/-- An option of a table, if one is next, as text. -/
def tableOption? : Reader (Option String) := do
  if ← keyword "COMMENT" then
    let equals ← symbol "="
    match ← peek with
    | some { token := .string .single s, .. } =>
      skip
      pure (some ("COMMENT " ++ (if equals then "= " else "") ++ quoteText '\x27' s))
    | _ => expected "Token::SingleQuotedString"
  else if ← keyword "ENGINE" then
    let _ ← symbol "="
    match ← peek with
    | some { token := .word s _, .. } =>
      skip
      let names ← identList? false
      pure (some ("ENGINE = " ++ s ++
        (if names.isEmpty then "" else "(" ++ identsText names ++ ")")))
    | _ => expected "Token::Word"
  else
    match ← oneOfPhrases tableOptionNames with
    | some name =>
      let _ ← symbol "="
      match ← attempt value with
      | some v => pure (some (name ++ " = " ++ v.text))
      | none => pure (some (name ++ " = " ++ (← ident).text))
    | none => pure none

def tableOptions : Reader String := do
  let options ← many do
    match ← tableOption? with
    | some option =>
      let _ ← symbol ","
      pure (some (" " ++ option))
    | none => pure none
  pure (String.join options)

/-- Options in parentheses after a keyword, if it is next, as text. -/
def keyedOptions (g : Grammar) (key : String) : Reader String := do
  if ← keyword key then
    needSymbol "("
    let options ← commas0 ")" do
      let name ← ident
      needSymbol "="
      pure (name.text ++ " = " ++ (← g.anyExpr).text)
    needSymbol ")"
    pure (if options.isEmpty then "" else " " ++ key ++ " (" ++ commaText options ++ ")")
  else pure ""

/-- What happens to the rows of a temporary table, if it is next, as text. -/
def onCommitText : Reader String := do
  if ← keywords ["ON", "COMMIT"] then
    match ← oneOf ["DELETE", "PRESERVE"] with
    | some key =>
      needKeyword "ROWS"
      pure (" ON COMMIT " ++ key ++ " ROWS")
    | none =>
      if ← keyword "DROP" then pure " ON COMMIT DROP"
      else expected "DELETE ROWS, PRESERVE ROWS or DROP"
  else pure ""

/-- The columns and the constraints of a table as text, the columns first. -/
def TableParts.text (parts : TableParts) : String :=
  " (" ++ commaText (parts.columns.map Phrase.text ++ parts.constraints.map Phrase.text) ++ ")"

/-- `CREATE TABLE`; `opening` is what stood before `TABLE`. -/
def createTable (g : Grammar) (opening : String) : Reader (Phrase CreateTable) := do
  let d ← dialect
  let exists_ := if ← keywords ["IF", "NOT", "EXISTS"] then "IF NOT EXISTS " else ""
  let name ← objectName
  let like ← if (← oneOf ["LIKE", "ILIKE"]).isSome then pure (some (namesText (← objectName)))
    else pure none
  let parts ← tableParts g
  let rowid := if ← keywords ["WITHOUT", "ROWID"] then " WITHOUT ROWID" else ""
  let inherits ← if ← keyword "INHERITS" then
      pure (" INHERITS (" ++ commaText ((← nameList).map namesText) ++ ")")
    else pure ""
  let settings ← keyedOptions g "WITH"
  let partition ← if ← only (d = .postgresql || d = .generic) (keywords ["PARTITION", "BY"]) then
      pure (some (← g.anyExpr).text)
    else pure none
  let options ← if settings.isEmpty then tableOptions else pure settings
  let commit ← onCommitText
  let strict := if ← keyword "STRICT" then " STRICT" else ""
  let given ← do
    if ← keyword "AS" then pure true else only (d = .mysql) (atKeyword "SELECT")
  let query ← if given then pure (some (← g.query)) else pure none
  let body := if parts.columns.isEmpty && parts.constraints.isEmpty then
      (if query.isNone && like.isNone then " ()" else "")
    else parts.text
  pure
    ⟨opening ++ "TABLE " ++ exists_ ++ namesText name ++ body ++ rowid ++ clause " LIKE " like ++
      inherits ++ options ++ clause " PARTITION BY " partition ++ commit ++ strict ++
      clause " AS " (query.map Phrase.text),
     ⟨objectNameOf name, parts.columns.map Phrase.node, parts.constraints.filterMap Phrase.node⟩⟩

/-! ## Indexes -/

def createIndex (g : Grammar) (unique : Bool) : Reader (Phrase CreateIndex) := do
  let d ← dialect
  let concurrently := if ← keyword "CONCURRENTLY" then "CONCURRENTLY " else ""
  let exists_ ← keywords ["IF", "NOT", "EXISTS"]
  let named ← if exists_ then pure true else pure !(← keyword "ON")
  let (name, early) ← if named then do
      let name ← objectName
      let method ← indexMethod?
      needKeyword "ON"
      pure (some name, method)
    else pure (none, none)
  let table ← objectName
  let late ← indexMethod?
  let columns ← indexColumns g
  let included ← if ← keyword "INCLUDE" then
      pure (" INCLUDE (" ++ identsText (← parenthesised (commas ident)) ++ ")")
    else pure ""
  let nulls ← if ← keyword "NULLS" then do
      let no := if ← keyword "NOT" then " NOT" else ""
      needKeyword "DISTINCT"
      pure (" NULLS" ++ no ++ " DISTINCT")
    else pure ""
  let settings ← if ← only (d = .postgresql || d = .generic) (keyword "WITH") then
      pure (" WITH (" ++ termsText (← parenthesised g.exprs) ++ ")")
    else pure ""
  let filter ← condition g "WHERE"
  let options ← indexOptions
  pure
    ⟨"CREATE " ++ (if unique then "UNIQUE " else "") ++ "INDEX " ++ concurrently ++
      (if exists_ then "IF NOT EXISTS " else "") ++
      clause "" (name.map fun n => namesText n ++ " ") ++ "ON " ++ namesText table ++
      clause " USING " ((late <|> early).map (· ++ " ")) ++ columnsText columns ++ included ++
      nulls ++ settings ++ clause " WHERE " (filter.map Term.text) ++ options,
     ⟨name.map fun n => (objectNameOf n).base, objectNameOf table, columns.map Phrase.node, unique⟩⟩

/-! ## Views -/

/-- `CREATE VIEW` as text; `opening` is what stood before `VIEW`. -/
def createViewText (g : Grammar) (opening : String) : Reader String := do
  let before ← keywords ["IF", "NOT", "EXISTS"]
  let name ← objectName
  let columns ← identList? false
  let settings ← keyedOptions g "WITH"
  needKeyword "AS"
  let q ← g.query
  pure (opening ++ "VIEW " ++ (if before then "IF NOT EXISTS " else "") ++ namesText name ++
    (if columns.isEmpty then "" else " (" ++ identsText columns ++ ")") ++ settings ++
      " AS " ++ q.text)

end SqlAudit.Sql
