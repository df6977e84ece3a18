import SqlAudit.Sql.Expr.Operand
import SqlAudit.Sql.Select

/-! # Columns

The definition of a column: its name, its type and its options.
-/

namespace SqlAudit.Sql

open Reader

/-! ## References and their keeping -/

/-- What happens to a row when the row it refers to changes. -/
def referentialAction : Reader String := do
  if ← keyword "RESTRICT" then pure "RESTRICT"
  else if ← keyword "CASCADE" then pure "CASCADE"
  else if ← keywords ["SET", "NULL"] then pure "SET NULL"
  else if ← keywords ["NO", "ACTION"] then pure "NO ACTION"
  else if ← keywords ["SET", "DEFAULT"] then pure "SET DEFAULT"
  else expected "one of RESTRICT, CASCADE, SET NULL, NO ACTION or SET DEFAULT"

/-- The actions of a reference, in any order and each at most once. -/
structure ReferenceRules where
  kind : Option String
  onDelete : Option String
  onUpdate : Option String
  deriving Inhabited

def referenceRules : Reader ReferenceRules :=
  grow (fun r => do
    if ← only r.kind.isNone (keyword "MATCH") then
      pure (some { r with kind := some (← needOneOf ["FULL", "PARTIAL", "SIMPLE"]) })
    else if ← only r.onDelete.isNone (keywords ["ON", "DELETE"]) then
      pure (some { r with onDelete := some (← referentialAction) })
    else if ← only r.onUpdate.isNone (keywords ["ON", "UPDATE"]) then
      pure (some { r with onUpdate := some (← referentialAction) })
    else pure none) ⟨none, none, none⟩

def ReferenceRules.text (r : ReferenceRules) : String :=
  clause " MATCH " r.kind ++ clause " ON DELETE " r.onDelete ++ clause " ON UPDATE " r.onUpdate

/-- When a constraint is checked: each part at most once. -/
structure Checking where
  deferrable : Option String
  initially : Option String
  enforced : Option String
  deriving Inhabited

def checking : Reader Checking :=
  grow (fun c => do
    if ← only c.deferrable.isNone (keywords ["NOT", "DEFERRABLE"]) then
      pure (some { c with deferrable := some "NOT DEFERRABLE" })
    else if ← only c.deferrable.isNone (keyword "DEFERRABLE") then
      pure (some { c with deferrable := some "DEFERRABLE" })
    else if ← only c.initially.isNone (keyword "INITIALLY") then
      match ← oneOf ["DEFERRED", "IMMEDIATE"] with
      | some key => pure (some { c with initially := some ("INITIALLY " ++ key) })
      | none => expected "one of DEFERRED or IMMEDIATE"
    else if ← only c.enforced.isNone (keyword "ENFORCED") then
      pure (some { c with enforced := some "ENFORCED" })
    else if ← only c.enforced.isNone (keywords ["NOT", "ENFORCED"]) then
      pure (some { c with enforced := some "NOT ENFORCED" })
    else pure none) ⟨none, none, none⟩

def Checking.text (c : Checking) : String :=
  String.join ((c.deferrable.toList ++ c.initially.toList ++ c.enforced.toList).map (" " ++ ·))

/-! ## Options -/

/-- The expression of an option. One that begins with a parenthesis ends with it. -/
def optionExpr (g : Grammar) : Reader Term := do
  if ← atSymbol "(" then within false (do operandFrom g ((← left) + 1)) else g.anyExpr

def sequenceText (g : Grammar) : Reader String := do
  let numbered (keys : String) (word : String) : Reader (Option String) := do
    if ← keyword keys then
      let between := if ← keyword word then " " ++ word else ""
      pure (some (" " ++ keys ++ between ++ " " ++ (← g.anyExpr).text))
    else pure none
  let bound (key : String) : Reader (Option String) := do
    if ← keywords ["NO", key] then pure (some (" NO " ++ key))
    else if ← keyword key then pure (some (" " ++ key ++ " " ++ (← g.anyExpr).text))
    else pure none
  let parts :=
    [← numbered "INCREMENT" "BY", ← bound "MINVALUE", ← bound "MAXVALUE", ← numbered "START" "WITH"]
  let cache ← if ← keyword "CACHE" then pure (" CACHE " ++ (← g.anyExpr).text) else pure ""
  let cycle ← oneOfPhrases [["NO", "CYCLE"], ["CYCLE"]]
  pure (String.join (parts.filterMap id) ++ cache ++ clause " " cycle)

def generatedText (g : Grammar) : Reader (Option String) := do
  let identity (kind : String) : Reader (Option String) := do
    let options ← if ← symbol "(" then do
        let options ← sequenceText g
        needSymbol ")"
        pure options
      else pure ""
    pure (some ("GENERATED " ++ kind ++ " AS IDENTITY" ++
      (if options.isEmpty then "" else " (" ++ options ++ " )")))
  if ← keywords ["ALWAYS", "AS", "IDENTITY"] then identity "ALWAYS"
  else if ← keywords ["BY", "DEFAULT", "AS", "IDENTITY"] then identity "BY DEFAULT"
  else if ← keywords ["ALWAYS", "AS"] then
    if ← symbol "(" then
      let t ← within false g.anyExpr
      needSymbol ")"
      if (← dialect) = .postgresql then
        needKeyword "STORED"
        pure (some ("GENERATED ALWAYS AS (" ++ t.text ++ ") STORED"))
      else
        let mode ← oneOf ["STORED", "VIRTUAL"]
        pure (some ("GENERATED ALWAYS AS (" ++ t.text ++ ")" ++ clause " " mode))
    else pure none
  else pure none

def textOption (text : String) : Phrase ColumnOption :=
  ⟨text, .other text⟩

def referenceOption : Reader (Phrase ColumnOption) := do
  let table ← objectName
  let columns ← identList? false
  let rules ← referenceRules
  let when_ ← checking
  pure
    ⟨"REFERENCES " ++ namesText table ++
      (if columns.isEmpty then "" else " (" ++ identsText columns ++ ")") ++
      rules.text ++ when_.text,
     .foreignKey (objectNameOf table) (columns.map Ident.value)⟩

/-- An option of a column that only some dialects have, if one is next. -/
def dialectOption (g : Grammar) : Reader (Option (Phrase ColumnOption)) := do
  let d ← dialect
  let mysql := d = .mysql || d = .generic
  let sqlite := d = .sqlite || d = .generic
  if ← only mysql (keyword "AUTO_INCREMENT") then pure (some (textOption "AUTO_INCREMENT"))
  else if ← only sqlite (keyword "AUTOINCREMENT") then pure (some (textOption "AUTOINCREMENT"))
  else if ← only sqlite (keyword "ASC") then pure (some (textOption "ASC"))
  else if ← only sqlite (keyword "DESC") then pure (some (textOption "DESC"))
  else if ← only mysql (keywords ["ON", "UPDATE"]) then
    pure (some (textOption ("ON UPDATE " ++ (← optionExpr g).text)))
  else if ← keyword "GENERATED" then pure ((← generatedText g).map textOption)
  else if ← only (d != .postgresql) (keyword "AS") then
    let t ← parenthesised (within false g.anyExpr)
    let mode ← oneOf ["STORED", "VIRTUAL"]
    pure (some (textOption ("AS (" ++ t.text ++ ")" ++ clause " " mode)))
  else if ← only mysql (keyword "SRID") then
    pure (some (textOption ("SRID " ++ (← optionExpr g).text)))
  else if ← only sqlite (keywords ["ON", "CONFLICT"]) then
    pure (some (textOption ("ON CONFLICT " ++
      (← needOneOf ["ROLLBACK", "ABORT", "FAIL", "IGNORE", "REPLACE"]))))
  else if ← only mysql (keyword "INVISIBLE") then pure (some (textOption "INVISIBLE"))
  else pure none

def columnOption? (g : Grammar) : Reader (Option (Phrase ColumnOption)) :=
  within true do
    if ← keywords ["CHARACTER", "SET"] then
      pure (some (textOption ("CHARACTER SET " ++ namesText (← objectName))))
    else if ← keyword "COLLATE" then
      pure (some (textOption ("COLLATE " ++ namesText (← objectName))))
    else if ← keywords ["NOT", "NULL"] then pure (some ⟨"NOT NULL", .notNull⟩)
    else if ← keyword "COMMENT" then
      match ← peek with
      | some { token := .string .single s, .. } =>
        skip
        pure (some (textOption ("COMMENT " ++ quoteText '\x27' s)))
      | _ => expected "string"
    else if ← keyword "NULL" then pure (some ⟨"NULL", .null⟩)
    else if ← keyword "DEFAULT" then
      let t ← optionExpr g
      pure (some ⟨"DEFAULT " ++ t.text, .default t.text⟩)
    else if ← keywords ["PRIMARY", "KEY"] then
      pure (some ⟨"PRIMARY KEY" ++ (← checking).text, .primaryKey⟩)
    else if ← keyword "UNIQUE" then pure (some ⟨"UNIQUE" ++ (← checking).text, .unique⟩)
    else if ← keyword "REFERENCES" then pure (some (← referenceOption))
    else if ← keyword "CHECK" then
      let t ← parenthesised (within false g.anyExpr)
      let enforced ← oneOfPhrases [["ENFORCED"], ["NOT", "ENFORCED"]]
      pure (some (textOption ("CHECK (" ++ t.text ++ ")" ++ clause " " enforced)))
    else dialectOption g

def namedOption? (g : Grammar) : Reader (Option (Phrase ColumnOption)) := do
  if ← keyword "CONSTRAINT" then
    let name ← ident
    match ← columnOption? g with
    | some option => pure (some ⟨"CONSTRAINT " ++ name.text ++ " " ++ option.text, option.node⟩)
    | none => expected "constraint details after CONSTRAINT <name>"
  else columnOption? g

/-! ## Definitions -/

/-- In SQLite a column needs no type: the next lexeme begins an option or ends the column. -/
def lacksType : Reader Bool := do
  if (← dialect) = .sqlite then
    match ← peek with
    | some { token := .word _ _, key := key, .. } =>
      pure (["CONSTRAINT", "PRIMARY", "NOT", "UNIQUE", "CHECK", "DEFAULT", "COLLATE", "REFERENCES",
        "GENERATED", "AS"].contains key)
    | _ => pure true
  else pure false

def columnDef (g : Grammar) : Reader (Phrase ColumnDef) := do
  let name ← ident
  let type ← if ← lacksType then pure "" else pure (← dataType).text
  let options ← many (namedOption? g)
  pure
    ⟨name.text ++ spaced type ++ String.join (options.map fun o => " " ++ o.text),
     ⟨name.value, type, options.map Phrase.node⟩⟩

end SqlAudit.Sql
