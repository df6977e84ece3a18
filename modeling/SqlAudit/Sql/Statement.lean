import SqlAudit.Sql.Command
import SqlAudit.Sql.Control
import SqlAudit.Sql.Expr.Operators
import SqlAudit.Sql.Lexer
import SqlAudit.Sql.Query

/-! # Statements and scripts

A statement is chosen by its first keyword. A script is a list of statements with semicolons between
them.
-/

namespace SqlAudit.Sql

open Reader

/-- A statement of which the review sees only the text. -/
def textStatement (text : String) : Phrase Statement :=
  ⟨text, .other text⟩

/-- `CREATE` for the kinds of objects that can be replaced, if one is next. `replace` and
`temporary` are what stood before. -/
def createReplaceable? (g : Grammar) (replace temporary : String) : Reader (Option String) := do
  match ← oneOf ["POLICY", "FUNCTION", "DOMAIN", "TRIGGER", "USER"] with
  | some "POLICY" => pure (some (← createPolicyText g))
  | some "FUNCTION" => pure (some (← createFunctionText g ("CREATE " ++ replace ++ temporary)))
  | some "DOMAIN" => pure (some (← createDomainText g))
  | some "TRIGGER" => pure (some (← createTriggerText g ("CREATE " ++ temporary ++ replace)))
  | some _ => pure (some (← createUserText ("CREATE " ++ replace)))
  | none =>
    if ← keywords ["CONSTRAINT", "TRIGGER"] then
      pure (some (← createTriggerText g ("CREATE " ++ temporary ++ replace ++ "CONSTRAINT ")))
    else pure none

/-- `CREATE` for the other kinds of objects that the review sees only as text, if one is next. -/
def createOther? (g : Grammar) (temporary : String) : Reader (Option String) := do
  match ← oneOf ["EXTENSION", "VIRTUAL", "SCHEMA", "DATABASE", "ROLE", "SEQUENCE", "TYPE",
    "PROCEDURE", "CONNECTOR", "OPERATOR", "SERVER"] with
  | none => pure none
  | some "EXTENSION" => pure (some (← createExtensionText))
  | some "VIRTUAL" => pure (some (← createVirtualTableText))
  | some "ROLE" => pure (some (← createRoleText g))
  | some "SEQUENCE" => pure (some (← createSequenceText g ("CREATE " ++ temporary)))
  | some "TYPE" => pure (some (← createTypeText g))
  | some "PROCEDURE" => pure (some (← createProcedureText g "CREATE "))
  | some "CONNECTOR" => pure (some (← createConnectorText g))
  | some "OPERATOR" => pure (some (← createOperatorText))
  | some "SERVER" => pure (some (← createServerText))
  | some key => pure (some (← createSpaceText key))

def createStatement (g : Grammar) : Reader (Phrase Statement) := do
  let d ← dialect
  let replace := if ← keywords ["OR", "REPLACE"] then "OR REPLACE " else ""
  let extent ← oneOf ["LOCAL", "GLOBAL"]
  let temporary := if (← oneOf ["TEMP", "TEMPORARY"]).isSome then "TEMPORARY " else ""
  if ← keyword "TABLE" then
    let s ← createTable g ("CREATE " ++ replace ++ clause "" (extent.map (· ++ " ")) ++ temporary)
    return ⟨s.text, .createTable s.node⟩
  if ← keywords ["MATERIALIZED", "VIEW"] then
    return textStatement (← createViewText g ("CREATE " ++ replace ++ "MATERIALIZED " ++ temporary))
  if ← keyword "VIEW" then
    return textStatement (← createViewText g ("CREATE " ++ replace ++ temporary))
  if ← only (d != .generic && d != .postgresql) (atKeyword "FUNCTION") then
    expected "an object type after CREATE"
  if let some text ← createReplaceable? g replace temporary then return textStatement text
  if !replace.isEmpty then
    expected "[EXTERNAL] TABLE or [MATERIALIZED] VIEW or FUNCTION after CREATE OR REPLACE"
  if ← keyword "INDEX" then
    let s ← createIndex g false
    return ⟨s.text, .createIndex s.node⟩
  if ← keywords ["UNIQUE", "INDEX"] then
    let s ← createIndex g true
    return ⟨s.text, .createIndex s.node⟩
  match ← createOther? g temporary with
  | some text => pure (textStatement text)
  | none => expected "an object type after CREATE"

/-- `ALTER INDEX` and `ALTER VIEW`, after the keywords. -/
def alterIndexText : Reader String := do
  let name ← objectName
  if ← keyword "RENAME" then
    if ← keyword "TO" then
      pure ("ALTER INDEX " ++ namesText name ++ " RENAME TO " ++ namesText (← objectName))
    else expected "TO after RENAME"
  else expected "RENAME after ALTER INDEX"

def alterViewText (g : Grammar) : Reader String := do
  let name ← objectName
  let columns ← identList? false
  needKeyword "AS"
  let q ← g.query
  pure ("ALTER VIEW " ++ namesText name ++
    (if columns.isEmpty then "" else " (" ++ identsText columns ++ ")") ++ " AS " ++ q.text)

def alterStatement (g : Grammar) : Reader (Phrase Statement) := do
  let table (opening : String) : Reader (Phrase Statement) := do
    let s ← alterTable g opening
    pure ⟨s.text, .alterTable s.node⟩
  match ← needOneOf ["VIEW", "TYPE", "TABLE", "INDEX", "ROLE", "POLICY", "CONNECTOR", "ICEBERG",
    "SCHEMA", "USER", "OPERATOR"] with
  | "TABLE" => table "ALTER TABLE"
  | "ICEBERG" =>
    needKeyword "TABLE"
    table "ALTER ICEBERG TABLE"
  | "INDEX" => pure (textStatement (← alterIndexText))
  | "VIEW" => pure (textStatement (← alterViewText g))
  | "TYPE" => pure (textStatement (← alterTypeText))
  | "ROLE" => pure (textStatement (← alterRoleText g))
  | "POLICY" => pure (textStatement (← alterPolicyText g))
  | "CONNECTOR" => pure (textStatement (← alterConnectorText g))
  | "SCHEMA" => pure (textStatement (← alterSchemaText))
  | "USER" => pure (textStatement (← alterUserText))
  | _ => pure (textStatement (← alterOperatorText))

def queryStatement (g : Grammar) : Reader (Phrase Statement) := do
  let q ← g.query
  pure ⟨q.text, .query q.node⟩

def statementWith (g : Grammar) : Reader (Phrase Statement) := do
  let d ← dialect
  let text (p : Reader String) : Reader (Phrase Statement) := do
    skip
    pure (textStatement (← p))
  let insert (key : String) : Reader (Phrase Statement) := do
    skip
    let s ← insertStatement g key
    pure ⟨s.text, .insert s.node⟩
  match ← keyAt 0 with
  | "SELECT" | "WITH" | "VALUES" | "FROM" => queryStatement g
  | "INSERT" => insert "INSERT"
  | "REPLACE" =>
    if d = .postgresql then
      skip
      wrong "Unsupported statement REPLACE"
    else insert "REPLACE"
  | "UPDATE" =>
    skip
    let s ← updateStatement g
    pure ⟨s.text, .update s.node⟩
  | "DELETE" =>
    skip
    let s ← deleteStatement g
    pure ⟨s.text, .delete s.node⟩
  | "IF" => pure (textStatement (← conditionalText g))
  | "CASE" => pure (textStatement (← choiceText g))
  | "WHILE" => pure (textStatement (← branchText g "WHILE" ["END"]))
  | "CREATE" => skip; createStatement g
  | "ALTER" => skip; alterStatement g
  | "DROP" => skip; dropStatement g
  | "MERGE" => text (mergeText g)
  | "TRUNCATE" => text truncateText
  | "EXPLAIN" => text (explainText g "EXPLAIN")
  | "DESCRIBE" => text (explainText g "DESCRIBE")
  | "DESC" => text (explainText g "DESC")
  | "BEGIN" => text beginText
  | "START" => text do
    needKeyword "TRANSACTION"
    pure ("START TRANSACTION" ++ (← transactionModes))
  | "COMMIT" => text do pure ("COMMIT" ++ (← chainText))
  | "END" => text do pure ("END" ++ (← chainText))
  | "ROLLBACK" => text rollbackText
  | "SAVEPOINT" => text do pure ("SAVEPOINT " ++ (← ident).text)
  | "RELEASE" => text do
    let _ ← keyword "SAVEPOINT"
    pure ("RELEASE SAVEPOINT " ++ (← ident).text)
  | "SET" => text (setText g)
  | "SHOW" => text (showText g)
  | "USE" => text do pure ("USE " ++ namesText (← objectName))
  | "PRAGMA" => text pragmaText
  | "GRANT" => text grantText
  | "REVOKE" => text revokeText
  | "CALL" => text do
    let name ← objectName
    if ← atSymbol "(" then pure ("CALL " ++ (← callOf g name).text)
    else pure ("CALL " ++ namesText name)
  | "ANALYZE" => text do
    let table := if ← keyword "TABLE" then " TABLE" else ""
    pure ("ANALYZE" ++ table ++ " " ++ namesText (← objectName))
  | "COMMENT" =>
    if d = .generic || d = .postgresql then text commentText else expected "an SQL statement"
  | key =>
    match command g d key with
    | some p => text p
    | none => if ← atSymbol "(" then queryStatement g else expected "an SQL statement"

/-! ## Levels of nesting -/

namespace Grammar

/-- The grammar for texts that nest at most so deep. -/
def level : Nat → Grammar
  | 0 => lowest
  | depth + 1 =>
    let below := level depth
    { expr := exprAbove below
      query := queryWith below
      statement := statementWith below }

def depth : Nat := 50

end Grammar

/-! ## Scripts -/

/-- Statements with semicolons between them. `after` says that a statement has just ended; a lone
`END` then ends the script. -/
def statementsFrom (g : Grammar) : Nat → Bool → Reader (List (Phrase Statement))
  | 0, _ => pure []
  | fuel + 1, after => do
    if ← symbol ";" then statementsFrom g fuel false
    else
      match ← peek with
      | none => pure []
      | some lexeme =>
        if after then
          if lexeme.key == "END" then pure [] else expected "end of statement"
        else
          let s ← g.statement
          let more ← statementsFrom g fuel true
          pure (s :: more)

def script (d : Dialect) (text : String) : Except Refusal (List (Phrase Statement)) := do
  let lexemes ← lex d text
  let read := statementsFrom (Grammar.level Grammar.depth) (2 * lexemes.length + 2) false
  let (statements, _) ← read ⟨d, false⟩ lexemes
  pure statements

end SqlAudit.Sql
