import SqlAudit.Sql.Definition

/-! # Changes of a table

The operations of `ALTER TABLE`. Each reader stands after its keyword.
-/

namespace SqlAudit.Sql

open Reader

/-- What a change does with objects that depend on what it drops, as text. -/
def dropBehaviour : Reader String := do
  pure (clause " " (← oneOf ["CASCADE", "RESTRICT"]))

def columnPosition : Reader String := do
  if (← dialect).declaresIndexes then
    if ← keyword "FIRST" then pure " FIRST"
    else if ← keyword "AFTER" then pure (" AFTER " ++ (← ident).text)
    else pure ""
  else pure ""

/-- One operation, which the review may see as several. -/
abbrev AlterPhrase : Type := Phrase (List AlterOperation)

/-- An operation that the review sees only as text. -/
def textOperation (text : String) : AlterPhrase :=
  ⟨text, [.other text]⟩

def addOperation (g : Grammar) : Reader AlterPhrase := do
  match ← tableConstraint? g with
  | some c =>
    let valid := if ← keywords ["NOT", "VALID"] then " NOT VALID" else ""
    pure ⟨"ADD " ++ c.text ++ valid,
      [match c.node with
       | some constraint => .addConstraint constraint
       | none => .other c.text]⟩
  | none =>
    let d ← dialect
    let early ← keywords ["IF", "NOT", "EXISTS"]
    let word := if ← keyword "COLUMN" then " COLUMN" else ""
    let late ← if d = .postgresql || d = .generic then do
        let here ← keywords ["IF", "NOT", "EXISTS"]
        pure (here || early)
      else pure false
    let column ← columnDef g
    let position ← columnPosition
    pure ⟨"ADD" ++ word ++ (if late then " IF NOT EXISTS" else "") ++ " " ++
      column.text ++ position, [.addColumn column.node]⟩

def renameOperation : Reader AlterPhrase := do
  let pair : Reader (Ident × Ident) := do
    let old ← ident
    needKeyword "TO"
    pure (old, ← ident)
  if ← only ((← dialect) = .postgresql) (keyword "CONSTRAINT") then
    let (old, new) ← pair
    pure (textOperation ("RENAME CONSTRAINT " ++ old.text ++ " TO " ++ new.text))
  else
    match ← oneOf ["TO", "AS"] with
    | some key => pure (textOperation ("RENAME " ++ key ++ " " ++ namesText (← objectName)))
    | none =>
      let _ ← keyword "COLUMN"
      let (old, new) ← pair
      pure ⟨"RENAME COLUMN " ++ old.text ++ " TO " ++ new.text, [.renameColumn old.value new.value]⟩

def dropOperation : Reader AlterPhrase := do
  if ← keyword "CONSTRAINT" then
    let exists_ := if ← keywords ["IF", "EXISTS"] then "IF EXISTS " else ""
    let name ← ident
    pure ⟨"DROP CONSTRAINT " ++ exists_ ++ name.text ++ (← dropBehaviour),
      [.dropConstraint name.value]⟩
  else if ← keywords ["PRIMARY", "KEY"] then
    pure (textOperation ("DROP PRIMARY KEY" ++ (← dropBehaviour)))
  else if ← keywords ["FOREIGN", "KEY"] then
    let name ← ident
    pure (textOperation ("DROP FOREIGN KEY " ++ name.text ++ (← dropBehaviour)))
  else if ← keyword "INDEX" then
    let name ← ident
    pure ⟨"DROP INDEX " ++ name.text, [.dropIndex name.value]⟩
  else
    let word := if ← keyword "COLUMN" then "COLUMN " else ""
    let exists_ := if ← keywords ["IF", "EXISTS"] then "IF EXISTS " else ""
    let name ← ident
    pure ⟨"DROP " ++ word ++ exists_ ++ name.text ++ (← dropBehaviour), [.dropColumn name.value]⟩

/-- A type with options and a position, as `MODIFY` and `CHANGE` give it: the type, and all as text.
-/
def newColumnType (g : Grammar) : Reader (String × String) := do
  let type ← dataType
  let options ← many (columnOption? g)
  let position ← columnPosition
  pure (type.text, type.text ++ String.join (options.map fun o => " " ++ o.text) ++ position)

def alterColumnOperation (g : Grammar) : Reader AlterPhrase := do
  let d ← dialect
  let _ ← keyword "COLUMN"
  let name ← ident
  let opening := "ALTER COLUMN " ++ name.text ++ " "
  let retype (word : String) : Reader AlterPhrase := do
    let type ← dataType
    let value ← if ← only (d = .postgresql || d = .generic) (keyword "USING") then
        pure (some (← g.anyExpr).text)
      else pure none
    pure ⟨opening ++ word ++ "TYPE " ++ type.text ++ clause " USING " value,
      [.modifyColumn name.value type.text]⟩
  if ← keywords ["SET", "NOT", "NULL"] then pure (textOperation (opening ++ "SET NOT NULL"))
  else if ← keywords ["DROP", "NOT", "NULL"] then pure (textOperation (opening ++ "DROP NOT NULL"))
  else if ← keywords ["SET", "DEFAULT"] then
    pure (textOperation (opening ++ "SET DEFAULT " ++ (← g.anyExpr).text))
  else if ← keywords ["DROP", "DEFAULT"] then pure (textOperation (opening ++ "DROP DEFAULT"))
  else if ← keywords ["SET", "DATA", "TYPE"] then retype "SET DATA "
  else if ← keyword "TYPE" then retype ""
  else if d = .postgresql then
    expected "SET/DROP NOT NULL, SET DEFAULT, SET DATA TYPE, or ADD GENERATED after ALTER COLUMN"
  else expected "SET/DROP NOT NULL, SET DEFAULT, or SET DATA TYPE after ALTER COLUMN"

def switchText (key : String) : Reader String := do
  let extra := if key == "ENABLE" then ["ALWAYS", "REPLICA"] else []
  if ← keywords ["ROW", "LEVEL", "SECURITY"] then pure (key ++ " ROW LEVEL SECURITY")
  else
    let mode ← oneOf extra
    match ← oneOf ["RULE", "TRIGGER"] with
    | some kind => pure (key ++ clause " " mode ++ " " ++ kind ++ " " ++ (← ident).text)
    | none =>
      if key == "ENABLE" then
        expected "ALWAYS, REPLICA, ROW LEVEL SECURITY, RULE, or TRIGGER after ENABLE"
      else expected "ROW LEVEL SECURITY, RULE, or TRIGGER after DISABLE"

/-- A setting of MySQL for the change itself, after its keyword, as text. -/
def changeSetting (key : String) : Reader String := do
  let equals := if ← symbol "=" then " = " else " "
  let values := if key == "LOCK" then ["DEFAULT", "EXCLUSIVE", "NONE", "SHARED"]
    else ["DEFAULT", "INSTANT", "INPLACE", "COPY"]
  pure (key ++ equals ++ (← needOneOf values))

def alterOperation (g : Grammar) : Reader AlterPhrase := do
  let d ← dialect
  match ← keyAt 0 with
  | "ADD" => skip; addOperation g
  | "RENAME" => skip; renameOperation
  | "DROP" => skip; dropOperation
  | "CHANGE" =>
    skip
    let _ ← keyword "COLUMN"
    let old ← ident
    let new ← ident
    let (type, text) ← newColumnType g
    pure ⟨"CHANGE COLUMN " ++ old.text ++ " " ++ new.text ++ " " ++ text,
      [.changeColumn old.value new.value type]⟩
  | "MODIFY" =>
    skip
    let _ ← keyword "COLUMN"
    let name ← ident
    let (type, text) ← newColumnType g
    pure ⟨"MODIFY COLUMN " ++ name.text ++ " " ++ text, [.modifyColumn name.value type]⟩
  | "ALTER" => skip; alterColumnOperation g
  | "ENABLE" => skip; pure (textOperation (← switchText "ENABLE"))
  | "DISABLE" => skip; pure (textOperation (← switchText "DISABLE"))
  | "SWAP" =>
    skip
    needKeyword "WITH"
    pure (textOperation ("SWAP WITH " ++ namesText (← objectName)))
  | "LOCK" => skip; pure (textOperation (← changeSetting "LOCK"))
  | "ALGORITHM" => skip; pure (textOperation (← changeSetting "ALGORITHM"))
  | "AUTO_INCREMENT" =>
    skip
    let equals := if ← symbol "=" then " = " else " "
    pure (textOperation ("AUTO_INCREMENT" ++ equals ++ (← value).text))
  | _ =>
    if ← only (d = .postgresql || d = .generic) (keywords ["OWNER", "TO"]) then
      pure (textOperation ("OWNER TO " ++ (← ident).text))
    else if ← keywords ["VALIDATE", "CONSTRAINT"] then
      pure (textOperation ("VALIDATE CONSTRAINT " ++ (← ident).text))
    else if ← atKeyword "SET" then
      pure (textOperation (Text.trimStart (← keyedOptions g "SET")))
    else
      expected
        ("ADD, RENAME, PARTITION, SWAP, DROP, REPLICA IDENTITY, SET, or SET TBLPROPERTIES " ++
          "after ALTER TABLE")

/-- `ALTER TABLE`, after the keywords, which are handed on as text. -/
def alterTable (g : Grammar) (opening : String) : Reader (Phrase AlterTable) := do
  let exists_ := if ← keywords ["IF", "EXISTS"] then "IF EXISTS " else ""
  let only_ := if ← keyword "ONLY" then "ONLY " else ""
  let name ← objectName
  let operations ← commas (alterOperation g)
  pure ⟨opening ++ " " ++ exists_ ++ only_ ++ namesText name ++ " " ++ phrasesText operations,
    ⟨objectNameOf name, (operations.map Phrase.node).flatten⟩⟩

end SqlAudit.Sql
