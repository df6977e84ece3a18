import SqlAudit.Sql.Object

/-! # Commands

Prepared statements, cursors, notifications, locks, copies and upkeep. The review sees only their
text. Each reader stands after its first keyword.
-/

namespace SqlAudit.Sql

open Reader

/-! ## Prepared statements -/

def prepareText (g : Grammar) : Reader String := do
  let name ← wordText
  let types ← if ← atSymbol "(" then parenthesised (commas dataType) else pure []
  needKeyword "AS"
  let s ← g.statement
  pure ("PREPARE " ++ name ++ " " ++
    (if types.isEmpty then "" else "(" ++ commaText (types.map DeclaredType.text) ++ ") ") ++
    "AS " ++ s.text)

/-- The values for a prepared statement, as text. Parentheses around them are kept. -/
def executedValues (g : Grammar) : Reader String := do
  if ← symbol "(" then
    let values ← commas0 ")" g.anyExpr
    needSymbol ")"
    pure (" (" ++ termsText values ++ ")")
  else
    let none_ ← do
      match ← peek with
      | none => pure true
      | some lexeme =>
        pure (isSymbol ";" lexeme || ["USING", "OUTPUT", "DEFAULT"].contains lexeme.key)
    if none_ then pure "" else pure (spaced (termsText (← g.exprs)))

def executeText (g : Grammar) : Reader String := do
  let name ← nameText
  let values ← executedValues g
  let into ← keyedText "INTO" do pure (identsText (← commas ident))
  let using_ ← keyedText "USING" do
    pure (commaText (← commas do
      let value ← g.anyExpr
      pure (value.text ++ (← keyedText "AS" wordText))))
  let output := if ← keyword "OUTPUT" then " OUTPUT" else ""
  let default_ := if ← keyword "DEFAULT" then " DEFAULT" else ""
  pure ("EXECUTE " ++ name ++ values ++ into ++ using_ ++ output ++ default_)

def deallocateText : Reader String := do
  let prepare := if ← keyword "PREPARE" then "PREPARE " else ""
  pure ("DEALLOCATE " ++ prepare ++ (← wordText))

/-! ## Cursors -/

def declareText (g : Grammar) : Reader String := do
  let name ← wordText
  let binary := if ← keyword "BINARY" then " BINARY" else ""
  let sensitive ← oneOf ["INSENSITIVE", "ASENSITIVE"]
  let scroll ← oneOfPhrases [["SCROLL"], ["NO", "SCROLL"]]
  needKeyword "CURSOR"
  let hold ← oneOf ["WITH", "WITHOUT"]
  if hold.isSome then needKeyword "HOLD"
  needKeyword "FOR"
  let q ← g.query
  pure ("DECLARE " ++ name ++ binary ++ clause " " sensitive ++ clause " " scroll ++ " CURSOR" ++
    clause " " (hold.map (· ++ " HOLD")) ++ " FOR " ++ q.text)

def fetchDirection : Reader String := do
  match ← oneOfPhrases [["NEXT"], ["PRIOR"], ["FIRST"], ["LAST"], ["ALL"], ["FORWARD", "ALL"],
    ["BACKWARD", "ALL"]] with
  | some key => pure key
  | none =>
    match ← oneOf ["ABSOLUTE", "RELATIVE", "FORWARD", "BACKWARD"] with
    | some key => pure (key ++ " " ++ (← value).text)
    | none => pure (← value).text

def fetchRowsText : Reader String := do
  let direction ← fetchDirection
  match ← oneOf ["FROM", "IN"] with
  | some key =>
    let name ← wordText
    pure ("FETCH " ++ direction ++ " " ++ key ++ " " ++ name ++ (← keyedText "INTO" nameText))
  | none => wrong "Expected FROM or IN"

def closeText : Reader String := do
  if ← keyword "ALL" then pure "CLOSE ALL" else pure ("CLOSE " ++ (← wordText))

/-! ## Notifications -/

def unlistenText : Reader String := do
  if ← symbol "*" then pure "UNLISTEN *"
  else
    match ← ident? with
    | some channel => pure ("UNLISTEN " ++ channel.text)
    | none => expected "wildcard or channel name"

def notifyText : Reader String := do
  let channel ← wordText
  let payload ← if ← symbol "," then pure (some (← quotedString)) else pure none
  pure ("NOTIFY " ++ channel ++ clause ", " payload)

/-! ## Sessions and files -/

def discardText : Reader String := do
  match ← oneOf ["ALL", "PLANS", "SEQUENCES", "TEMP", "TEMPORARY"] with
  | some key => pure ("DISCARD " ++ if key == "TEMPORARY" then "TEMP" else key)
  | none => expected "ALL, PLANS, SEQUENCES, TEMP or TEMPORARY after DISCARD"

def attachText (g : Grammar) : Reader String := do
  let database := if ← keyword "DATABASE" then "DATABASE " else ""
  let file ← g.anyExpr
  needKeyword "AS"
  pure ("ATTACH " ++ database ++ file.text ++ " AS " ++ (← wordText))

def detachText : Reader String := do
  let database := if ← keyword "DATABASE" then "DATABASE " else ""
  let exists_ ← ifExists
  pure ("DETACH " ++ database ++ exists_ ++ (← wordText))

/-! ## Locks and processes -/

/-- A table to lock, with its alias and the lock. -/
def lockedTable : Reader String := do
  let table ← wordText
  let alias_ ← do
    if ← keyword "AS" then pure (some (← wordText))
    else if ← atOneOf ["READ", "WRITE", "LOW_PRIORITY"] then pure none
    else pure ((← ident?).map Ident.text)
  match ← oneOfPhrases [["READ", "LOCAL"], ["READ"], ["LOW_PRIORITY", "WRITE"], ["WRITE"]] with
  | some lock => pure (table ++ " " ++ clause "AS " (alias_.map (· ++ " ")) ++ lock)
  | none => expected "an lock type in LOCK TABLES"

def killText : Reader String := do
  let kind ← oneOf ["CONNECTION", "QUERY", "MUTATION"]
  let id ← wholeNumber
  if kind == some "MUTATION" && (← dialect) != .generic then
    expected "Unsupported type for KILL, allowed: CONNECTION | QUERY"
  else pure ("KILL " ++ clause "" (kind.map (· ++ " ")) ++ toString id)

/-- The tables to flush and what to do with them, as text. -/
def flushedTables : Reader String := do
  if (← peek).isNone then return ""
  if ← atSymbol ";" then return ""
  let names ← if ← atOneOf ["WITH", "FOR"] then pure [] else commas objectName
  let what ← oneOfPhrases [["WITH", "READ", "LOCK"], ["FOR", "EXPORT"]]
  pure (spaced (commaText (names.map namesText)) ++ clause " " what)

def flushText : Reader String := do
  let place ← oneOf ["NO_WRITE_TO_BINLOG", "LOCAL"]
  let opening := "FLUSH " ++ clause "" (place.map (· ++ " "))
  match ← oneOfPhrases [["BINARY", "LOGS"], ["ENGINE", "LOGS"], ["ERROR", "LOGS"],
    ["GENERAL", "LOGS"], ["HOSTS"], ["PRIVILEGES"], ["OPTIMIZER_COSTS"], ["RELAY", "LOGS"],
    ["SLOW", "LOGS"], ["LOGS"], ["STATUS"], ["USER_RESOURCES"], ["TABLES"]] with
  | some "RELAY LOGS" =>
    let channel ← if ← keywords ["FOR", "CHANNEL"] then pure (some (← nameText)) else pure none
    pure (opening ++ "RELAY LOGS" ++ clause " FOR CHANNEL " channel)
  | some "TABLES" => pure (opening ++ "TABLES" ++ (← flushedTables))
  | some kind => pure (opening ++ kind)
  | none =>
    expected ("BINARY LOGS, ENGINE LOGS, ERROR LOGS, GENERAL LOGS, HOSTS, LOGS, PRIVILEGES, " ++
      "OPTIMIZER_COSTS, RELAY LOGS [FOR CHANNEL channel], SLOW LOGS, STATUS, USER_RESOURCES")

/-! ## Upkeep -/

def renameTableText : Reader String := do
  if ← keyword "TABLE" then
    let pairs ← commas do
      let old ← nameText
      needKeyword "TO"
      pure (old ++ " TO " ++ (← nameText))
    pure ("RENAME TABLE " ++ commaText pairs)
  else expected "KEYWORD \x60TABLE\x60 after RENAME"

def vacuumText : Reader String := do
  let flag (keys : List String) : Reader String := do
    pure (if ← keywords keys then " " ++ Text.joinWith " " keys else "")
  let full ← flag ["FULL"]
  let sort ← flag ["SORT", "ONLY"]
  let delete ← flag ["DELETE", "ONLY"]
  let reindex ← flag ["REINDEX"]
  let recluster ← flag ["RECLUSTER"]
  let table ← match ← attempt nameText with
    | none => pure ""
    | some table =>
      let threshold ← if ← keyword "TO" then do
          let share ← value
          needKeyword "PERCENT"
          pure (" TO " ++ share.text ++ " PERCENT")
        else pure ""
      pure (" " ++ table ++ threshold ++ (← flag ["BOOST"]))
  pure ("VACUUM" ++ full ++ sort ++ delete ++ reindex ++ recluster ++ table)

def assertText (g : Grammar) : Reader String := do
  let condition ← g.anyExpr
  let message ← if ← keyword "AS" then pure (some (← g.anyExpr).text) else pure none
  pure ("ASSERT " ++ condition.text ++ clause " AS " message)

def repairText : Reader String := do
  let repair := if ← keyword "REPAIR" then "REPAIR " else ""
  needKeyword "TABLE"
  let table ← nameText
  let action ← oneOfPhrases [["ADD", "PARTITIONS"], ["DROP", "PARTITIONS"], ["SYNC", "PARTITIONS"]]
  pure ("MSCK " ++ repair ++ "TABLE " ++ table ++ clause " " action)

def raiseText (g : Grammar) : Reader String := do
  if ← keywords ["USING", "MESSAGE"] then
    needSymbol "="
    pure ("RAISE USING MESSAGE = " ++ (← g.anyExpr).text)
  else
    match ← attempt g.anyExpr with
    | some value => pure ("RAISE " ++ value.text)
    | none => pure "RAISE"

/-! ## Copies -/

/-- What is copied: a table with columns, or a query; and whether it is a query. -/
def copiedText (g : Grammar) : Reader (String × Bool) := do
  if ← symbol "(" then
    let q ← g.query
    needSymbol ")"
    pure ("(" ++ q.text ++ ")", true)
  else
    let table ← nameText
    let columns ← identList? false
    pure (table ++ (if columns.isEmpty then "" else " (" ++ identsText columns ++ ")"), false)

def oneChar : Reader String := do
  let place := (← peek).map Lexeme.start
  let s ← literalString
  if s.utf8ByteSize = 1 then pure ("'" ++ s ++ "'")
  else refuse (.wrong ("Expect a char, found \"" ++ s ++ "\"") place)

def copyOption : Reader String := do
  let truth : Reader String := do
    pure (if (← oneOf ["TRUE", "FALSE"]) == some "FALSE" then " FALSE" else "")
  match ← oneOf ["FORMAT", "FREEZE", "DELIMITER", "NULL", "HEADER", "QUOTE", "ESCAPE",
    "FORCE_QUOTE", "FORCE_NOT_NULL", "FORCE_NULL", "ENCODING"] with
  | none => expected "option"
  | some key =>
    match key with
    | "FORMAT" => pure ("FORMAT " ++ (← wordText))
    | "FREEZE" | "HEADER" => pure (key ++ (← truth))
    | "DELIMITER" | "QUOTE" | "ESCAPE" => pure (key ++ " " ++ (← oneChar))
    | "NULL" | "ENCODING" => pure (key ++ " " ++ (← quotedString))
    | _ => pure (key ++ " (" ++ identsText (← identList) ++ ")")

/-- An option of `CSV` without parentheses, if one is next. -/
def csvOption? : Reader (Option String) := do
  if ← keyword "HEADER" then return some "HEADER"
  if let some key ← oneOf ["QUOTE", "ESCAPE"] then
    let _ ← keyword "AS"
    return some (key ++ " " ++ (← oneChar))
  if let some key ← oneOfPhrases [["FORCE", "NOT", "NULL"], ["FORCE", "QUOTE"]] then
    return some (key ++ " " ++ identsText (← commas ident))
  pure none

/-- An option without parentheses, if one is next. -/
def plainCopyOption? : Reader (Option String) := do
  if ← keyword "BINARY" then return some "BINARY"
  if ← keyword "DELIMITER" then
    let _ ← keyword "AS"
    return some ("DELIMITER " ++ (← oneChar))
  if ← keyword "NULL" then
    let _ ← keyword "AS"
    return some ("NULL " ++ (← quotedString))
  if ← keyword "CSV" then
    return some ("CSV" ++ spaced (Text.joinWith " " (← many csvOption?)))
  pure none

/-- `COPY`, without the rows that may follow in the text itself. -/
def copyText (g : Grammar) : Reader String := do
  let (copied, isQuery) ← copiedText g
  let direction ← match ← oneOf ["FROM", "TO"] with
    | some key => pure key
    | none => expected "FROM or TO"
  if isQuery && direction == "FROM" then
    refuse (.wrong "COPY ... FROM does not support query as a source" none)
  let target ← do
    if ← keyword "STDOUT" then pure "STDOUT"
    else if ← keyword "PROGRAM" then pure ("PROGRAM " ++ (← quotedString))
    else quotedString
  let _ ← keyword "WITH"
  let options ← if ← atSymbol "(" then do
      let options ← parenthesised (commas copyOption)
      pure (" (" ++ commaText options ++ ")")
    else pure ""
  let plain ← many plainCopyOption?
  pure ("COPY " ++ copied ++ " " ++ direction ++ " " ++ target ++ options ++
    spaced (Text.joinWith " " plain))

/-! ## Commands by keyword -/

/-- The reader for a command, by its first keyword; nothing if no command of the dialect begins
so. -/
def command (g : Grammar) (d : Dialect) (key : String) : Option (Reader String) :=
  let channels := d = .generic || d = .postgresql
  let generic := d = .generic
  match key with
  | "PREPARE" => some (prepareText g)
  | "EXECUTE" | "EXEC" => some (executeText g)
  | "DEALLOCATE" => some deallocateText
  | "DECLARE" => some (declareText g)
  | "FETCH" => some fetchRowsText
  | "OPEN" => some do pure ("OPEN " ++ (← wordText))
  | "CLOSE" => some closeText
  | "LISTEN" => if channels then some do pure ("LISTEN " ++ (← wordText)) else none
  | "UNLISTEN" => if channels then some unlistenText else none
  | "NOTIFY" => if channels then some notifyText else none
  | "DISCARD" => some discardText
  | "RESET" => some do
    if ← keyword "ALL" then pure "RESET ALL" else pure ("RESET " ++ (← nameText))
  | "ATTACH" => some (attachText g)
  | "DETACH" => if generic then some detachText else none
  | "INSTALL" => if generic then some do pure ("INSTALL " ++ (← wordText)) else none
  | "LOAD" => some do
    if channels then pure ("LOAD " ++ (← wordText))
    else expected "\x60DATA\x60 or an extension name after \x60LOAD\x60"
  | "LOCK" => if d = .mysql then some do
      needKeyword "TABLES"
      pure ("LOCK TABLES " ++ commaText (← commas lockedTable))
    else none
  | "UNLOCK" => if d = .mysql then some do
      needKeyword "TABLES"
      pure "UNLOCK TABLES"
    else none
  | "KILL" => some killText
  | "FLUSH" => some do
    if d.declaresIndexes then flushText else wrong "Unsupported statement FLUSH"
  | "RENAME" => some renameTableText
  | "VACUUM" => some vacuumText
  | "ASSERT" => some (assertText g)
  | "COPY" => some (copyText g)
  | "MSCK" => some repairText
  | "UNCACHE" => some do
    needKeyword "TABLE"
    let exists_ ← ifExists
    pure ("UNCACHE TABLE " ++ exists_ ++ (← nameText))
  | "RAISE" => some (raiseText g)
  | "PRINT" => some do pure ("PRINT " ++ (← g.anyExpr).text)
  | "RETURN" => some do
    match ← attempt g.anyExpr with
    | some value => pure ("RETURN " ++ value.text)
    | none => pure "RETURN"
  | _ => none

end SqlAudit.Sql
