import SqlAudit.Sql.Column
import SqlAudit.Text.Blank

/-! # Constraints and indexes of a table

The reader of a constraint stands after the first keyword of the constraint.
-/

namespace SqlAudit.Sql

open Reader

/-! ## Indexed columns -/

/-- The column that an indexed expression is about: its text up to a blank or a parenthesis, without
quotes. -/
def columnOfText (text : String) : String :=
  let isQuote (c : Char) : Bool := c = '"' || c = '\x60'
  let first := text.toList.takeWhile fun c => !(Text.isBlank c || c = '(')
  String.ofList ((first.dropWhile isQuote).reverse.dropWhile isQuote).reverse

/-- A column of an index, with its order and its class of operators. -/
def indexColumn (g : Grammar) : Reader (Phrase String) := do
  let t ← g.anyExpr
  let operators ← if ← atOneOf ["ASC", "DESC", "NULLS", "WITH"] then pure none
    else attempt objectName
  let direction ← oneOf ["ASC", "DESC"]
  let nulls ← oneOfPhrases [["NULLS", "FIRST"], ["NULLS", "LAST"]]
  let column := match t.shape with
    | .name [i] => i.value
    | _ => columnOfText t.text
  pure ⟨t.text ++ clause " " (operators.map namesText) ++ clause " " direction ++
    clause " " nulls, column⟩

def indexColumns (g : Grammar) : Reader (List (Phrase String)) :=
  parenthesised (commas (indexColumn g))

def indexMethod : Reader String := do
  match ← oneOf ["BTREE", "HASH", "GIN", "GIST", "SPGIST", "BRIN", "BLOOM"] with
  | some key => pure key
  | none => pure (← ident).text

def indexMethod? : Reader (Option String) := do
  if ← keyword "USING" then pure (some (← indexMethod)) else pure none

/-- The options after the columns of an index, as text. -/
def indexOptions : Reader String := do
  let option : Reader (Option String) := do
    match ← indexMethod? with
    | some method => pure (some (" USING " ++ method))
    | none =>
      if ← keyword "COMMENT" then pure (some (" COMMENT " ++ quoteText '\x27' (← literalString)))
      else pure none
  pure (String.join (← many option))

/-! ## Constraints -/

/-- A constraint of a table. The review does not see full text and spatial indexes. -/
abbrev ConstraintPhrase : Type := Phrase (Option TableConstraint)

def columnsText (columns : List (Phrase String)) : String :=
  "(" ++ phrasesText columns ++ ")"

def uniqueConstraint (g : Grammar) (name : Option Ident) : Reader ConstraintPhrase := do
  let kind ← oneOf ["KEY", "INDEX"]
  if kind.isSome && !(← dialect).declaresIndexes then
    expected "\x60index_name\x60 or \x60(column_name [, ...])\x60"
  else
    let nulls ← if ← keyword "NULLS" then do
        let no := if ← keyword "NOT" then " NOT" else ""
        needKeyword "DISTINCT"
        pure (" NULLS" ++ no ++ " DISTINCT")
      else pure ""
    let indexName ← ident?
    let method ← indexMethod?
    let columns ← indexColumns g
    let options ← indexOptions
    let when_ ← checking
    pure
      ⟨"UNIQUE" ++ nulls ++ clause " " kind ++ clause " " (indexName.map Ident.text) ++
        clause " USING " method ++ " " ++ columnsText columns ++ options ++ when_.text,
       some (.unique ((name <|> indexName).map Ident.value) (columns.map Phrase.node))⟩

def primaryKeyConstraint (g : Grammar) (name : Option Ident) : Reader ConstraintPhrase := do
  needKeyword "KEY"
  let indexName ← ident?
  let method ← indexMethod?
  let columns ← indexColumns g
  let options ← indexOptions
  let when_ ← checking
  pure
    ⟨"PRIMARY KEY" ++ clause " " (indexName.map Ident.text) ++ clause " USING " method ++ " " ++
      columnsText columns ++ options ++ when_.text,
     some (.primaryKey (name.map Ident.value) (columns.map Phrase.node))⟩

def foreignKeyConstraint (name : Option Ident) : Reader ConstraintPhrase := do
  needKeyword "KEY"
  let indexName ← ident?
  let columns ← identList
  needKeyword "REFERENCES"
  let table ← objectName
  let referred ← identList? false
  let rules ← referenceRules
  let when_ ← checking
  pure
    ⟨"FOREIGN KEY" ++ clause " " (indexName.map Ident.text) ++ " (" ++ identsText columns ++
      ") REFERENCES " ++ namesText table ++
      (if referred.isEmpty then "" else "(" ++ identsText referred ++ ")") ++ rules.text ++
      when_.text,
     some (.foreignKey (name.map Ident.value) (columns.map Ident.value) (objectNameOf table)
       (referred.map Ident.value))⟩

def checkConstraint (g : Grammar) (name : Option Ident) : Reader ConstraintPhrase := do
  let t ← parenthesised g.anyExpr
  let enforced ← oneOfPhrases [["ENFORCED"], ["NOT", "ENFORCED"]]
  pure ⟨"CHECK (" ++ t.text ++ ")" ++ clause " " enforced,
    some (.check (name.map Ident.value) t.text)⟩

def indexConstraint (g : Grammar) (key : String) : Reader ConstraintPhrase := do
  let name ← if ← atKeyword "USING" then pure none else ident?
  let method ← indexMethod?
  let columns ← indexColumns g
  let options ← indexOptions
  pure
    ⟨key ++ clause " " (name.map Ident.text) ++ clause " USING " method ++ " " ++
      columnsText columns ++ options,
     some (.index (name.map Ident.value) (columns.map Phrase.node))⟩

def searchConstraint (g : Grammar) (key : String) : Reader ConstraintPhrase := do
  let kind ← oneOf ["KEY", "INDEX"]
  let name ← ident?
  let columns ← indexColumns g
  pure ⟨key ++ clause " " kind ++ clause " " (name.map Ident.text) ++ " " ++
    columnsText columns, none⟩

def tableConstraint? (g : Grammar) : Reader (Option ConstraintPhrase) := do
  let d ← dialect
  let name ← if ← keyword "CONSTRAINT" then pure (some (← ident)) else pure none
  let named (c : ConstraintPhrase) : Option ConstraintPhrase :=
    some ⟨clause "" (name.map fun n => "CONSTRAINT " ++ n.text ++ " ") ++ c.text, c.node⟩
  match ← keyAt 0 with
  | "UNIQUE" => skip; pure (named (← uniqueConstraint g name))
  | "PRIMARY" => skip; pure (named (← primaryKeyConstraint g name))
  | "FOREIGN" => skip; pure (named (← foreignKeyConstraint name))
  | "CHECK" => skip; pure (named (← checkConstraint g name))
  | key =>
    if (key == "INDEX" || key == "KEY") && d.declaresIndexes && name.isNone then
      skip
      pure (some (← indexConstraint g key))
    else if (key == "FULLTEXT" || key == "SPATIAL") && d.declaresIndexes then
      match name with
      | some n =>
        refuse (.wrong ("Expected: FULLTEXT or SPATIAL option without constraint name, found: " ++
          n.text) none)
      | none =>
        skip
        pure (some (← searchConstraint g key))
    else if name.isSome then expected "PRIMARY, UNIQUE, FOREIGN, or CHECK"
    else pure none

end SqlAudit.Sql
