import SqlAudit.Sql.Alter

/-! # Functions, procedures and triggers

Definitions that hold code. The review sees only their text. Each reader stands after the keyword
for its object; what stood before it is handed on as text.
-/

namespace SqlAudit.Sql

open Reader

/-- `IF EXISTS` with a blank after it, if it is next. -/
def ifExists : Reader String := do
  pure (if ← keywords ["IF", "EXISTS"] then "IF EXISTS " else "")

def ifNotExists : Reader String := do
  pure (if ← keywords ["IF", "NOT", "EXISTS"] then "IF NOT EXISTS " else "")

/-! ## Parameters -/

/-- The value of a reader, with the last lexeme that it took. -/
def withLast {α : Type} (p : Reader α) : Reader (α × Option Lexeme) := fun mode rest =>
  match p mode rest with
  | .ok (a, more) => .ok ((a, rest[rest.length - more.length - 1]?), more)
  | .error r => .error r

def parameterMode : Reader String := do
  pure (clause "" ((← oneOf ["IN", "OUT", "INOUT"]).map (· ++ " ")))

/-- A parameter of a function, as text. What reads as a type is the name of the parameter if another
type follows. -/
def functionParameter (g : Grammar) : Reader String := do
  let mode ← parameterMode
  let (first, last) ← withLast dataType
  let type ← match ← attempt dataType with
    | none => pure first.text
    | some second =>
      match last with
      | some { token := .word s q, .. } => pure ((Token.word s q).text ++ " " ++ second.text)
      | _ => refuse (.expected "a name or type" last)
  let given ← do if ← keyword "DEFAULT" then pure true else symbol "="
  let value ← if given then pure (some (← g.anyExpr).text) else pure none
  pure (mode ++ type ++ clause " = " value)

/-- The name of a function, and its parameters if an opening parenthesis is next. -/
def functionName (g : Grammar) : Reader String := do
  let name ← objectName
  if ← symbol "(" then
    let parameters ← commas0 ")" (functionParameter g)
    needSymbol ")"
    pure (namesText name ++ "(" ++ commaText parameters ++ ")")
  else pure (namesText name)

/-- `DROP FUNCTION` and `DROP PROCEDURE`, after the keywords. -/
def dropRoutineText (g : Grammar) (key : String) : Reader String := do
  let exists_ ← ifExists
  let names ← commas (functionName g)
  pure ("DROP " ++ key ++ " " ++ exists_ ++ commaText names ++ (← dropBehaviour))

/-! ## Functions -/

/-- The clauses after the parameters of a function, each at most once and in any order. -/
structure FunctionClauses where
  body : Option String
  language : Option String
  behaviour : Option String
  onNull : Option String
  parallel : Option String
  deriving Inhabited

def codeString : Reader String := do
  match ← peek with
  | some { token := .dollar tag s, .. } => skip; pure (Token.dollarText tag s)
  | _ => pure (quoteText '\x27' (← literalString))

/-- A clause after its keyword, which has not been given before. -/
def onceOnly (name : String) (given : Option String) (p : Reader String) :
    Reader (Option String) := do
  if given.isSome then refuse (.wrong (name ++ " specified more than once") none)
  else pure (some (← p))

def functionClause (g : Grammar) (c : FunctionClauses) : Reader (Option FunctionClauses) := do
  if ← keyword "AS" then
    let body ← onceOnly "AS" c.body do
      let code ← codeString
      let symbolName ← if ← symbol "," then pure (some (← codeString)) else pure none
      pure (" AS " ++ code ++ clause ", " symbolName)
    return some { c with body }
  if ← keyword "LANGUAGE" then
    let language ← onceOnly "LANGUAGE" c.language do pure (← ident).text
    return some { c with language }
  if let some key ← oneOf ["IMMUTABLE", "STABLE", "VOLATILE"] then
    let behaviour ← onceOnly "IMMUTABLE | STABLE | VOLATILE" c.behaviour (pure key)
    return some { c with behaviour }
  if let some key ← oneOfPhrases [["CALLED", "ON", "NULL", "INPUT"],
      ["RETURNS", "NULL", "ON", "NULL", "INPUT"], ["STRICT"]] then
    let name := "CALLED ON NULL INPUT | RETURNS NULL ON NULL INPUT | STRICT"
    let onNull ← onceOnly name c.onNull (pure key)
    return some { c with onNull }
  if ← keyword "PARALLEL" then
    let name := "PARALLEL \x7b UNSAFE | RESTRICTED | SAFE \x7d"
    let parallel ← onceOnly name c.parallel do
      match ← oneOf ["UNSAFE", "RESTRICTED", "SAFE"] with
      | some key => pure ("PARALLEL " ++ key)
      | none => expected "one of UNSAFE | RESTRICTED | SAFE"
    return some { c with parallel }
  if ← keyword "RETURN" then
    let body ← onceOnly "RETURN" c.body do pure (" RETURN " ++ (← g.anyExpr).text)
    return some { c with body }
  pure none

def createFunctionText (g : Grammar) (opening : String) : Reader String := do
  let name ← objectName
  needSymbol "("
  let parameters ← commas0 ")" (functionParameter g)
  needSymbol ")"
  let returned ← if ← keyword "RETURNS" then pure (some (← dataType).text) else pure none
  let c ← grow (functionClause g) ⟨none, none, none, none, none⟩
  pure (opening ++ "FUNCTION " ++ namesText name ++ "(" ++ commaText parameters ++ ")" ++
    clause " RETURNS " returned ++ clause " LANGUAGE " c.language ++ clause " " c.behaviour ++
    clause " " c.onNull ++ clause " " c.parallel ++ clause "" c.body)

/-! ## Statements of a body -/

/-- Statements up to one of some keywords or the end of the text, each with a semicolon after it. -/
def statementsText (g : Grammar) (stops : List String) : Reader String := do
  let statements ← many do
    match ← peek with
    | none => pure none
    | some lexeme =>
      if stops.contains lexeme.key then pure none
      else
        let s ← g.statement
        needSymbol ";"
        pure (some (s.text ++ ";"))
  pure (Text.joinWith " " statements)

/-- A keyword that has to be next, as it was written. -/
def writtenKeyword (key : String) : Reader String := do
  match ← peek with
  | some lexeme =>
    if lexeme.key == key then
      skip
      pure lexeme.token.text
    else expected key
  | none => expected key

/-- Statements up to one of some keywords, or between `BEGIN` and `END`. -/
def bodyText (g : Grammar) (stops : List String) : Reader String := do
  if ← atKeyword "BEGIN" then
    let opening ← writtenKeyword "BEGIN"
    let statements ← statementsText g stops
    pure (opening ++ " " ++ statements ++ " " ++ (← writtenKeyword "END"))
  else statementsText g stops

/-- A branch from its keyword on: a condition, unless it is the last resort, and statements. -/
def branchText (g : Grammar) (key : String) (stops : List String) : Reader String := do
  let opening ← writtenKeyword key
  let condition ← match key with
    | "ELSE" => pure ""
    | "WHILE" => pure (" " ++ (← g.anyExpr).text)
    | _ =>
      let condition ← g.anyExpr
      needKeyword "THEN"
      pure (" " ++ condition.text ++ " THEN")
  pure (opening ++ condition ++ spaced (← bodyText g stops))

/-- Branches that a keyword begins, as long as it is next. -/
def branchesText (g : Grammar) (key : String) (stops : List String) : Reader String := do
  let branches ← many do
    if ← atKeyword key then pure (some (" " ++ (← branchText g key stops))) else pure none
  pure (String.join branches)

/-- `IF`, from the keyword on. -/
def conditionalText (g : Grammar) : Reader String := do
  let first ← branchText g "IF" ["ELSE", "ELSEIF", "END"]
  let others ← branchesText g "ELSEIF" ["ELSEIF", "ELSE", "END"]
  let last ← branchesText g "ELSE" ["END"]
  needKeyword "END"
  pure (first ++ others ++ last ++ " END " ++ (← writtenKeyword "IF"))

/-- `CASE` as a statement, from the keyword on. -/
def choiceText (g : Grammar) : Reader String := do
  let opening ← writtenKeyword "CASE"
  let operand ← if ← atKeyword "WHEN" then pure "" else pure (" " ++ (← g.anyExpr).text)
  if !(← atKeyword "WHEN") then expected "WHEN"
  let branches ← branchesText g "WHEN" ["WHEN", "ELSE", "END"]
  let last ← branchesText g "ELSE" ["END"]
  needKeyword "END"
  let closing := if ← keyword "CASE" then " END CASE" else " END"
  pure (opening ++ operand ++ branches ++ last ++ closing)

/-! ## Procedures -/

def procedureParameter (g : Grammar) : Reader String := do
  let mode ← parameterMode
  let name ← ident
  let type ← dataType
  let value ← if ← symbol "=" then pure (some (← g.anyExpr).text) else pure none
  pure (mode ++ name.text ++ " " ++ type.text ++ clause " = " value)

/-- The parameters of a procedure, after the opening parenthesis. The last one may have a comma. -/
def procedureParametersFrom (g : Grammar) : Nat → List String → Reader (List String)
  | 0, found => pure found
  | fuel + 1, found => do
    let found ← match ← peek with
      | some { token := .word _ _, .. } => pure (found ++ [← procedureParameter g])
      | _ => pure found
    let comma ← symbol ","
    if ← symbol ")" then pure found
    else if comma then procedureParametersFrom g fuel found
    else expected "',' or ')' after parameter definition"

def procedureParameters (g : Grammar) : Reader (List String) := do
  if ← symbol "(" then
    if ← symbol ")" then pure [] else procedureParametersFrom g ((← left) + 1) []
  else pure []

def createProcedureText (g : Grammar) (opening : String) : Reader String := do
  let name ← objectName
  let parameters ← procedureParameters g
  let language ← if ← keyword "LANGUAGE" then pure (some (← ident).text) else pure none
  needKeyword "AS"
  pure (opening ++ "PROCEDURE " ++ namesText name ++
    (if parameters.isEmpty then "" else " (" ++ commaText parameters ++ ")") ++
    clause " LANGUAGE " language ++ " AS " ++ (← bodyText g ["END"]))

/-! ## Triggers -/

def triggerEvent : Reader String := do
  let key ← needOneOf ["INSERT", "UPDATE", "DELETE", "TRUNCATE"]
  if ← only (key == "UPDATE") (keyword "OF") then
    pure ("UPDATE OF " ++ identsText (← commas ident))
  else pure key

/-- A name for the rows before or after the change, if one is next. -/
def transitionTable? : Reader (Option String) := do
  match ← oneOfPhrases [["OLD", "TABLE"], ["NEW", "TABLE"]] with
  | some key =>
    let as_ := if ← keyword "AS" then " AS" else ""
    pure (some (key ++ as_ ++ " " ++ namesText (← objectName)))
  | none => pure none

def triggerActionText (g : Grammar) : Reader String := do
  if ← keyword "EXECUTE" then
    let kind ← needOneOf ["FUNCTION", "PROCEDURE"]
    pure (" EXECUTE " ++ kind ++ " " ++ (← functionName g))
  else pure (" " ++ (← bodyText g ["END"]))

def createTriggerText (g : Grammar) (opening : String) : Reader String := do
  let name ← objectName
  let period ← oneOfPhrases [["INSTEAD", "OF"], ["FOR"], ["BEFORE"], ["AFTER"]]
  let events ← separatedFrom triggerEvent (keyword "OR") (← left)
  needKeyword "ON"
  let table ← objectName
  let referred ← if ← keyword "FROM" then attempt objectName else pure none
  let when_ ← checking
  let transitions ← if ← keyword "REFERENCING" then many transitionTable? else pure []
  let each ← if ← keyword "FOR" then do
      let word := if ← keyword "EACH" then " FOR EACH " else " FOR "
      pure (word ++ (← needOneOf ["ROW", "STATEMENT"]))
    else pure ""
  let condition ← if ← keyword "WHEN" then pure (some (← g.anyExpr).text) else pure none
  pure (opening ++ "TRIGGER " ++ namesText name ++ " " ++ clause "" (period.map (· ++ " ")) ++
    Text.joinWith " OR " events ++ " ON " ++ namesText table ++
    clause " FROM " (referred.map namesText) ++ when_.text ++
    (if transitions.isEmpty then "" else " REFERENCING " ++ Text.joinWith " " transitions) ++
    each ++ clause " WHEN " condition ++ (← triggerActionText g))

def dropTriggerText : Reader String := do
  let exists_ ← ifExists
  let name ← objectName
  let table ← if ← keyword "ON" then pure (some (namesText (← objectName))) else pure none
  pure ("DROP TRIGGER " ++ exists_ ++ namesText name ++ clause " ON " table ++ (← dropBehaviour))

end SqlAudit.Sql
