import SqlAudit.Sql.DataType
import SqlAudit.Sql.Expr.Call
import SqlAudit.Sql.Keyword
import SqlAudit.Sql.Precedence

/-! # Expressions that begin with a keyword

Each reader stands after its keyword. The review sees `CASE`, casts, `EXISTS` and calls; the other
forms are only text for it.
-/

namespace SqlAudit.Sql

open Reader

def caseTerm (g : Grammar) : Reader Term := do
  let operand ← if ← keyword "WHEN" then pure none
    else do
      let t ← g.anyExpr
      needKeyword "WHEN"
      pure (some t)
  let branch : Reader (Term × Term) := do
    let condition ← g.anyExpr
    needKeyword "THEN"
    pure (condition, ← g.anyExpr)
  let branches ← separatedFrom branch (keyword "WHEN") (← left)
  let otherwise ← if ← keyword "ELSE" then pure (some (← g.anyExpr)) else pure none
  needKeyword "END"
  pure (.plain
    ("CASE" ++ clause " " (operand.map Term.text) ++
      String.join (branches.map fun b => " WHEN " ++ b.1.text ++ " THEN " ++ b.2.text) ++
      clause " ELSE " (otherwise.map Term.text) ++ " END")
    (.caseWhen (operand.map Term.expr) (branches.map fun b => ⟨b.1.expr, b.2.expr⟩)
      (otherwise.map Term.expr)))

def castTerm (g : Grammar) (key : String) : Reader Term := do
  needSymbol "("
  let t ← g.anyExpr
  needKeyword "AS"
  let type ← dataType
  let array ← keyword "ARRAY"
  let format ← if ← keyword "FORMAT" then pure (some (← value).text) else pure none
  needSymbol ")"
  pure (.plain
    (key ++ "(" ++ t.text ++ " AS " ++ type.text ++ (if array then " ARRAY" else "") ++
      clause " FORMAT " format ++ ")")
    (.cast t.expr type.text))

def convertTerm (g : Grammar) : Reader Term := do
  needSymbol "("
  let t ← g.anyExpr
  if ← keyword "USING" then
    let charset ← objectName
    needSymbol ")"
    pure (.unseen ("CONVERT(" ++ t.text ++ " USING " ++ namesText charset ++ ")"))
  else
    needSymbol ","
    let type ← dataType
    let charset ← if ← keywords ["CHARACTER", "SET"] then pure (some (namesText (← objectName)))
      else pure none
    needSymbol ")"
    pure (.unseen ("CONVERT(" ++ t.text ++ ", " ++ type.text ++
      clause " CHARACTER SET " charset ++ ")"))

def existsTerm (g : Grammar) (negated : Bool) : Reader Term := do
  needSymbol "("
  let q ← g.query
  needSymbol ")"
  pure (.plain ((if negated then "NOT " else "") ++ "EXISTS (" ++ q.text ++ ")")
    (.existsQuery q.node negated))

/-- A unit of time. Known units are written in capitals. -/
def timeUnit : Reader String := do
  match ← peek with
  | some { token := .word _ _, key := key, .. } =>
    if timeUnits.contains key || timeParts.contains key then
      skip
      pure key
    else if (← dialect).hasCustomUnits then pure (← ident).text
    else expected "date/time field"
  | some { token := .string .single _, .. } =>
    if (← dialect).hasCustomUnits then pure (← ident).text else expected "date/time field"
  | _ => expected "date/time field"

def extractTerm (g : Grammar) : Reader Term := do
  needSymbol "("
  let unit ← timeUnit
  let divider ← do
    if ← keyword "FROM" then pure " FROM "
    else if ← only ((← dialect) = .generic) (symbol ",") then pure ", "
    else wrong "Expected 'FROM' or ','"
  let t ← g.anyExpr
  needSymbol ")"
  pure (.unseen ("EXTRACT(" ++ unit ++ divider ++ t.text ++ ")"))

def roundTerm (g : Grammar) (key : String) : Reader Term := do
  needSymbol "("
  let t ← g.anyExpr
  let more ← do
    if ← keyword "TO" then pure (" TO " ++ (← timeUnit))
    else if ← symbol "," then
      let scale ← value
      match scale.shape with
      | .number _ => pure (", " ++ scale.text)
      | _ => refuse (.wrong "Scale field can only be of number type" none)
    else pure ""
  needSymbol ")"
  pure (.unseen (key ++ "(" ++ t.text ++ more ++ ")"))

/-- `POSITION(… IN …)`, or an ordinary call of a function of that name. -/
def positionTerm (g : Grammar) (name : Ident) : Reader Term := do
  let d ← dialect
  let position ← attempt do
    needSymbol "("
    let t ← g.expr (Precedence.between.tightness d)
    needKeyword "IN"
    let within ← g.anyExpr
    needSymbol ")"
    pure (Term.unseen ("POSITION(" ++ t.text ++ " IN " ++ within.text ++ ")"))
  match position with
  | some t => pure t
  | none => callOf g [name]

/-- `SUBSTRING(… FROM … FOR …)`, also with commas. -/
def substringTerm (g : Grammar) (key : String) : Reader Term := do
  needSymbol "("
  let t ← g.anyExpr
  let comma ← symbol ","
  let start ← if ← (if comma then pure true else keyword "FROM") then pure (some (← g.anyExpr).text)
    else pure none
  let bounded ← do
    if ← keyword "FOR" then pure true else symbol ","
  let length ← if bounded then pure (some (← g.anyExpr).text) else pure none
  needSymbol ")"
  pure (.unseen (key ++ "(" ++ t.text ++ clause (if comma then ", " else " FROM ") start ++
    clause (if comma then ", " else " FOR ") length ++ ")"))

def overlayTerm (g : Grammar) : Reader Term := do
  needSymbol "("
  let t ← g.anyExpr
  needKeyword "PLACING"
  let what ← g.anyExpr
  needKeyword "FROM"
  let start ← g.anyExpr
  let length ← if ← keyword "FOR" then pure (some (← g.anyExpr).text) else pure none
  needSymbol ")"
  pure (.unseen ("OVERLAY(" ++ t.text ++ " PLACING " ++ what.text ++ " FROM " ++ start.text ++
    clause " FOR " length ++ ")"))

def trimTerm (g : Grammar) : Reader Term := do
  needSymbol "("
  let side ← oneOf ["BOTH", "LEADING", "TRAILING"]
  let t ← g.anyExpr
  if ← keyword "FROM" then
    let whole ← g.anyExpr
    needSymbol ")"
    pure (.unseen ("TRIM(" ++ clause "" (side.map (· ++ " ")) ++ t.text ++ " FROM " ++
      whole.text ++ ")"))
  else if ← only ((← dialect) != .mysql) (symbol ",") then
    let characters ← g.exprs
    needSymbol ")"
    pure (.unseen ("TRIM(" ++ t.text ++ ", " ++ termsText characters ++ ")"))
  else
    needSymbol ")"
    pure (.unseen ("TRIM(" ++ clause "" (side.map (· ++ " ")) ++ t.text ++ ")"))

/-- What follows the value of an interval: its units and their precisions. -/
def intervalUnits : Reader String := do
  let unit ← if timeUnits.contains (← keyAt 0) then pure (some (← timeUnit)) else pure none
  if unit.isNone && (← dialect).needsIntervalUnit then
    wrong "INTERVAL requires a unit after the literal value"
  if unit = some "SECOND" then
    if ← symbol "(" then
      let first ← wholeNumber
      let second ← if ← symbol "," then pure (some (← wholeNumber)) else pure none
      needSymbol ")"
      pure (" SECOND (" ++ toString first ++ clause ", " (second.map toString) ++ ")")
    else pure " SECOND"
  else
    let first ← precision?
    let last ← if ← keyword "TO" then do
        let last ← timeUnit
        let precision ← if last == "SECOND" then precision? else pure none
        pure (" TO " ++ last ++ clause " " (precision.map fun n => "(" ++ toString n ++ ")"))
      else pure ""
    pure (clause " " unit ++ clause " " (first.map fun n => "(" ++ toString n ++ ")") ++ last)

def textSearchTerm : Reader Term := do
  let columns ← nameList
  needKeyword "AGAINST"
  needSymbol "("
  let what ← value
  let modes := [["IN", "NATURAL", "LANGUAGE", "MODE", "WITH", "QUERY", "EXPANSION"],
    ["IN", "NATURAL", "LANGUAGE", "MODE"], ["IN", "BOOLEAN", "MODE"],
    ["WITH", "QUERY", "EXPANSION"]]
  let mode ← modes.foldlM (fun (found : Option String) keys => do
    match found with
    | some mode => pure (some mode)
    | none => if ← keywords keys then pure (some (Text.joinWith " " keys)) else pure none) none
  needSymbol ")"
  pure (.unseen ("MATCH (" ++ commaText (columns.map namesText) ++ ") AGAINST (" ++ what.text ++
    clause " " mode ++ ")"))

/-- Elements in brackets, after the opening one. -/
def arrayTerm (g : Grammar) (opening : String) : Reader Term := do
  let elements ← commas0 "]" g.anyExpr
  needSymbol "]"
  pure (.unseen (opening ++ termsText elements ++ "]"))

end SqlAudit.Sql
