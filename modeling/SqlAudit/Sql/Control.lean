import SqlAudit.Sql.Object

/-! # Other statements

Statements of which the review sees only the text: transactions, sessions, privileges, and the
dropping of objects. Each reader stands after its first keyword.
-/

namespace SqlAudit.Sql

open Reader

/-! ## Transactions -/

def transactionModes : Reader String := do
  let mode : Reader (Option String) := do
    let found ← do
      if ← keywords ["ISOLATION", "LEVEL"] then
        match ← oneOfPhrases [["READ", "UNCOMMITTED"], ["READ", "COMMITTED"],
          ["REPEATABLE", "READ"], ["SERIALIZABLE"], ["SNAPSHOT"]] with
        | some level => pure (some ("ISOLATION LEVEL " ++ level))
        | none => expected "isolation level"
      else oneOfPhrases [["READ", "ONLY"], ["READ", "WRITE"]]
    if found.isSome then let _ ← symbol ","
    pure found
  pure (spaced (commaText (← many mode)))

def beginText : Reader String := do
  let modifier ← if (← dialect) = .generic || (← dialect) = .sqlite then
      oneOf ["DEFERRED", "IMMEDIATE", "EXCLUSIVE"]
    else pure none
  let kind ← oneOf ["TRANSACTION", "WORK"]
  pure ("BEGIN" ++ clause " " modifier ++ clause " " kind ++ (← transactionModes))

/-- Whether the next transaction begins at once, as text. -/
def chainText : Reader String := do
  let _ ← oneOf ["TRANSACTION", "WORK"]
  if ← keyword "AND" then
    let no ← keyword "NO"
    needKeyword "CHAIN"
    pure (if no then "" else " AND CHAIN")
  else pure ""

def rollbackText : Reader String := do
  let chain ← chainText
  let savepoint ← if ← keyword "TO" then do
      let _ ← keyword "SAVEPOINT"
      pure (some (← ident).text)
    else pure none
  pure ("ROLLBACK" ++ chain ++ clause " TO SAVEPOINT " savepoint)

/-! ## Sessions -/

def setText (g : Grammar) : Reader String := do
  let scope ← oneOf ["SESSION", "LOCAL", "GLOBAL"]
  let opening := "SET " ++ clause "" (scope.map (· ++ " "))
  let role ← attempt do
    needKeyword "ROLE"
    wordText
  if let some name := role then pure (opening ++ "ROLE " ++ name)
  else if ← keyword "CHARACTERISTICS" then
    needKeywords ["AS", "TRANSACTION"]
    pure ("SET SESSION CHARACTERISTICS AS TRANSACTION" ++ (← transactionModes))
  else if ← keyword "TRANSACTION" then pure (opening ++ "TRANSACTION" ++ (← transactionModes))
  else if ← only ((← dialect).declaresIndexes) (keyword "NAMES") then
    let charset ← if ← keyword "DEFAULT" then pure "DEFAULT" else pure (← ident).text
    let collation ← if ← keyword "COLLATE" then pure (some (quoteText '\x27' (← literalString)))
      else pure none
    pure (opening ++ "NAMES " ++ charset ++ clause " COLLATE " collation)
  else if ← keywords ["TIME", "ZONE"] then
    if (← symbol "=") then pure (opening ++ "TIMEZONE = " ++ termsText (← g.exprs))
    else pure (opening ++ "TIME ZONE " ++ (← g.anyExpr).text)
  else
    let name ← objectName
    let equals ← symbol "="
    let given ← if equals then pure true else keyword "TO"
    if given then
      match ← attempt g.exprs with
      | some values => pure (opening ++ namesText name ++ " = " ++ termsText values)
      | none => expected "variable value"
    else expected "equals sign or TO"

def showFilter (g : Grammar) : Reader String := do
  let part : Reader (Option String) := do
    match ← oneOf ["FROM", "IN"] with
    | some key => pure (some (" " ++ key ++ " " ++ namesText (← objectName)))
    | none => pure none
  let sources ← many part
  let filter ← do
    match ← oneOf ["LIKE", "ILIKE"] with
    | some key => pure (" " ++ key ++ " " ++ quoteText '\x27' (← literalString))
    | none => pure (clause " WHERE " ((← condition g "WHERE").map Term.text))
  pure (String.join sources ++ filter)

def showText (g : Grammar) : Reader String := do
  let extended := if ← keyword "EXTENDED" then "EXTENDED " else ""
  let full := if ← keyword "FULL" then "FULL " else ""
  if (← oneOf ["COLUMNS", "FIELDS"]).isSome then
    pure ("SHOW " ++ extended ++ full ++ "COLUMNS" ++ (← showFilter g))
  else if ← keyword "TABLES" then pure ("SHOW " ++ extended ++ full ++ "TABLES" ++ (← showFilter g))
  else if !extended.isEmpty || !full.isEmpty then
    refuse (.wrong "EXTENDED/FULL are not supported with this type of SHOW query" none)
  else if ← keyword "CREATE" then
    let kind ← needOneOf ["TABLE", "TRIGGER", "FUNCTION", "PROCEDURE", "EVENT", "VIEW"]
    pure ("SHOW CREATE " ++ kind ++ " " ++ namesText (← objectName))
  else
    match ← oneOf ["DATABASES", "SCHEMAS", "COLLATION"] with
    | some key => pure ("SHOW " ++ key ++ (← showFilter g))
    | none =>
      match ← if (← dialect).declaresIndexes then oneOf ["VARIABLES", "STATUS"] else pure none with
      | some key => pure ("SHOW " ++ key ++ (← showFilter g))
      | none =>
        let words ← many do
          match ← peek with
          | some { token := .word s q, .. } => skip; pure (some [Ident.text ⟨s, q⟩])
          | some { token := .symbol ";", .. } | some { token := .symbol "=", .. } | none =>
            pure none
          | _ => skip; pure (some [])
        pure ("SHOW " ++ Text.joinWith " " words.flatten)

def pragmaText : Reader String := do
  let name ← objectName
  let setting : Reader String := do
    let before ← peek
    let v ← value
    match v.expr with
    | .literal (.number _) | .literal (.string _) | .literal (.placeholder _) => pure v.text
    | _ => refuse (.expected "number or string or ? placeholder" before)
  if ← symbol "(" then
    let v ← setting
    needSymbol ")"
    pure ("PRAGMA " ++ namesText name ++ "(" ++ v ++ ")")
  else if ← symbol "=" then pure ("PRAGMA " ++ namesText name ++ " = " ++ (← setting))
  else pure ("PRAGMA " ++ namesText name)

/-! ## Explanations -/

def explainText (g : Grammar) (key : String) : Reader String := do
  let options ← do
    if ← keywords ["QUERY", "PLAN"] then pure "QUERY PLAN "
    else if ← keyword "ESTIMATE" then pure "ESTIMATE "
    else
      let analyze := if ← keyword "ANALYZE" then "ANALYZE " else ""
      let verbose := if ← keyword "VERBOSE" then "VERBOSE " else ""
      let format ← if ← keyword "FORMAT" then
          pure ("FORMAT " ++ (← needOneOf ["TEXT", "GRAPHVIZ", "JSON", "TRADITIONAL", "TREE"]) ++
            " ")
        else pure ""
      pure (analyze ++ verbose ++ format)
  let nested ← atOneOf ["EXPLAIN", "DESCRIBE", "DESC"]
  match ← attempt g.statement with
  | some s =>
    if nested then refuse (.wrong "Explain must be root of the plan" none)
    else pure (key ++ " " ++ options ++ s.text)
  | none => pure (key ++ " " ++ options ++ namesText (← objectName))

/-! ## Privileges -/

def privilege : Reader String := do
  let key ← needOneOf ["SELECT", "INSERT", "UPDATE", "DELETE", "TRUNCATE", "REFERENCES",
    "TRIGGER", "CONNECT", "CREATE", "EXECUTE", "TEMPORARY", "USAGE", "DROP"]
  let columns ← identList? false
  pure (key ++ (if columns.isEmpty then "" else " (" ++ identsText columns ++ ")"))

/-- Privileges and what they are on, as text. -/
def privilegesText : Reader String := do
  let privileges ← if ← keyword "ALL" then
      pure (if ← keyword "PRIVILEGES" then "ALL PRIVILEGES" else "ALL")
    else pure (commaText (← commas privilege))
  let objects ← if ← keyword "ON" then do
      let kind ← do
        match ← oneOfPhrases [["ALL", "TABLES", "IN", "SCHEMA"],
          ["ALL", "SEQUENCES", "IN", "SCHEMA"], ["TABLE"], ["SEQUENCE"], ["SCHEMA"], ["DATABASE"],
          ["VIEW"]] with
        | some "TABLE" | none => pure ""
        | some kind => pure (kind ++ " ")
      let part : Reader Ident := do
        if ← symbol "*" then pure ⟨"*", none⟩ else ident
      let names ← commas (do separatedFrom part (symbol ".") (← left))
      pure (" ON " ++ kind ++ commaText (names.map namesText))
    else pure ""
  pure (privileges ++ objects)

/-- Those who get or lose privileges, as text. -/
def granteesText : Reader String := do
  let names ← commas do
    let kind ← oneOf ["ROLE", "USER", "GROUP", "PUBLIC"]
    if kind = some "PUBLIC" then pure "PUBLIC"
    else
      let name ← objectName
      let host ← if ← symbol "@" then pure (some (← ident).text) else pure none
      pure (clause "" (kind.map (· ++ " ")) ++ namesText name ++ clause "@" host)
  pure (commaText names)

def grantText : Reader String := do
  let what ← privilegesText
  needKeyword "TO"
  let who ← granteesText
  let option := if ← keywords ["WITH", "GRANT", "OPTION"] then " WITH GRANT OPTION" else ""
  pure ("GRANT " ++ what ++ " TO " ++ who ++ option)

def revokeText : Reader String := do
  let what ← privilegesText
  needKeyword "FROM"
  let who ← granteesText
  pure ("REVOKE " ++ what ++ " FROM " ++ who ++ (← dropBehaviour))

/-! ## Objects -/

def truncateText : Reader String := do
  let table := if ← keyword "TABLE" then "TABLE " else ""
  let exists_ := if ← keywords ["IF", "EXISTS"] then "IF EXISTS " else ""
  let names ← commas do
    let only_ := if ← keyword "ONLY" then "ONLY " else ""
    pure (only_ ++ namesText (← objectName))
  let d ← dialect
  let identity ← if d = .generic || d = .postgresql then
      oneOfPhrases [["RESTART", "IDENTITY"], ["CONTINUE", "IDENTITY"]]
    else pure none
  let behaviour ← if d = .generic || d = .postgresql then dropBehaviour else pure ""
  pure ("TRUNCATE " ++ table ++ exists_ ++ commaText names ++ clause " " identity ++ behaviour)

def createSpaceText (key : String) : Reader String := do
  let exists_ := if ← keywords ["IF", "NOT", "EXISTS"] then "IF NOT EXISTS " else ""
  pure ("CREATE " ++ key ++ " " ++ exists_ ++ namesText (← objectName))

/-- The kind of object that a `DROP` names. -/
def dropKind : Reader String := do
  if ← keywords ["MATERIALIZED", "VIEW"] then pure "MATERIALIZED VIEW"
  else
    match ← oneOf ["TABLE", "VIEW", "INDEX", "ROLE", "SCHEMA", "DATABASE", "SEQUENCE", "STAGE",
      "TYPE", "USER", "STREAM"] with
    | some key => pure key
    | none =>
      expected
        ("CONNECTOR, DATABASE, EXTENSION, FUNCTION, INDEX, OPERATOR, POLICY, PROCEDURE, ROLE, " ++
          "SCHEMA, SECRET, SEQUENCE, STAGE, TABLE, TRIGGER, TYPE, VIEW, MATERIALIZED VIEW or " ++
          "USER after DROP")

/-- `DROP` of objects that differ in their kind only, after `TEMPORARY`. The review sees the
dropping of indexes. -/
def dropPlain (temporary : String) : Reader (Phrase Statement) := do
  let kind ← dropKind
  let exists_ := if ← keywords ["IF", "EXISTS"] then " IF EXISTS" else ""
  let names ← commas objectName
  let place := (← peek).map Lexeme.start
  let cascade ← keyword "CASCADE"
  let restrict ← keyword "RESTRICT"
  let purge := if ← keyword "PURGE" then " PURGE" else ""
  if cascade && restrict then
    refuse (.wrong "Cannot specify both CASCADE and RESTRICT in DROP" place)
  else
    let table ← if ← keyword "ON" then pure (some (← objectName)) else pure none
    let text := "DROP " ++ temporary ++ kind ++ exists_ ++ " " ++ commaText (names.map namesText) ++
      (if cascade then " CASCADE" else "") ++ (if restrict then " RESTRICT" else "") ++ purge ++
      clause " ON " (table.map namesText)
    pure ⟨text,
      if kind == "INDEX" then .dropIndex ⟨names.map objectNameOf, table.map objectNameOf⟩
      else .other text⟩

def dropStatement (g : Grammar) : Reader (Phrase Statement) := do
  let temporary :=
    if ← only (← dialect).declaresIndexes (keyword "TEMPORARY") then "TEMPORARY " else ""
  match ← dropOther? g temporary with
  | some text => pure ⟨text, .other text⟩
  | none => dropPlain temporary

def commentText : Reader String := do
  let exists_ := if ← keywords ["IF", "EXISTS"] then "IF EXISTS " else ""
  needKeyword "ON"
  match ← oneOf ["COLUMN", "TABLE", "EXTENSION", "SCHEMA", "DATABASE", "USER", "ROLE"] with
  | some kind =>
    let name ← objectName
    needKeyword "IS"
    let text ← if ← keyword "NULL" then pure "NULL" else pure (quoteText '\x27' (← literalString))
    pure ("COMMENT " ++ exists_ ++ "ON " ++ kind ++ " " ++ namesText name ++ " IS " ++ text)
  | none => expected "comment object_type"

end SqlAudit.Sql
