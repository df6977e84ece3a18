import SqlAudit.Sql.From

/-! # SELECT blocks

A block of a query, from `SELECT` to the clauses on groups and windows. The review sees the selected
values, the relations, and the conditions.
-/

namespace SqlAudit.Sql

open Reader

/-! ## The select list -/

/-- What is left out of a star, as the generic dialect allows, as text. -/
def starExceptions : Reader String := do
  if (← dialect) = .generic then
    let excluded ← if ← keyword "EXCLUDE" then
        if ← atSymbol "(" then pure (" EXCLUDE (" ++ identsText (← identList) ++ ")")
        else pure (" EXCLUDE " ++ (← ident).text)
      else pure ""
    let excepted ← if ← keyword "EXCEPT" then
        if ← atSymbol "(" then pure (" EXCEPT (" ++ identsText (← identList) ++ ")")
        else pure (" EXCEPT (" ++ (← ident).text ++ ")")
      else pure ""
    pure (excluded ++ excepted)
  else pure ""

def selectItem (g : Grammar) : Reader (Phrase SelectItem) := do
  match ← starred g with
  | .all => pure ⟨"*" ++ (← starExceptions), .all⟩
  | .allOf parts =>
    pure ⟨namesText parts ++ ".*" ++ (← starExceptions), .allOf (objectNameOf parts)⟩
  | .term t =>
    match t.shape with
    | .name [⟨name, none⟩] =>
      if Text.lower name == "from" then wrong ("Expected an expression, found: " ++ name)
      else aliased t
    | _ => aliased t
where
  /-- The value with its alias. -/
  aliased (t : Term) : Reader (Phrase SelectItem) := do
    match ← aliasWhere isColumnAlias with
    | some (_, name) => pure ⟨t.text ++ " AS " ++ name.text, .expr t.expr (some name.value)⟩
    | none => pure ⟨t.text, .expr t.expr none⟩

/-- What ends a select list after a comma, where that is allowed. -/
def endsSelectList : Reader Bool := do
  match ← peek with
  | none => pure true
  | some lexeme =>
    match lexeme.token with
    | .word _ none => pure !(isColumnAlias lexeme.key)
    | .symbol s => pure ([")", ";", "]", "\x7d"].contains s)
    | _ => pure false

/-- The select list, which the generic dialect allows to end in a comma. -/
def selectList (g : Grammar) : Reader (List (Phrase SelectItem)) := do
  if (← dialect) = .generic then commasUntil endsSelectList (selectItem g)
  else commas (selectItem g)

/-- `DISTINCT` with its columns, if it is next, as text. `ALL` is taken and forgotten. -/
def distinctText (g : Grammar) : Reader (Option String) := do
  let place := (← peek).map Lexeme.start
  let all ← keyword "ALL"
  if ← keyword "DISTINCT" then
    if all then refuse (.wrong "Cannot specify both ALL and DISTINCT" place)
    else if ← keyword "ON" then
      let columns ← parenthesised (commas0 ")" g.anyExpr)
      pure (some ("DISTINCT ON (" ++ termsText columns ++ ")"))
    else pure (some "DISTINCT")
  else pure none

/-- `TOP` with its number, if it is next, as text. -/
def topText (g : Grammar) : Reader String := do
  if ← keyword "TOP" then
    let quantity ← if ← symbol "(" then do
        let t ← g.anyExpr
        needSymbol ")"
        pure ("(" ++ t.text ++ ")")
      else pure (toString (← wholeNumber))
    let percent := if ← keyword "PERCENT" then " PERCENT" else ""
    let ties := if ← keywords ["WITH", "TIES"] then " WITH TIES" else ""
    pure (" TOP " ++ quantity ++ percent ++ ties)
  else pure ""

/-- `INTO` with its table, if it is next, as text. -/
def intoText : Reader String := do
  if ← keyword "INTO" then
    let temporary := if (← oneOf ["TEMP", "TEMPORARY"]).isSome then " TEMPORARY" else ""
    let unlogged := if ← keyword "UNLOGGED" then " UNLOGGED" else ""
    let table := if ← keyword "TABLE" then " TABLE" else ""
    pure (" INTO" ++ temporary ++ unlogged ++ table ++ " " ++ namesText (← objectName))
  else pure ""

/-! ## Groups and windows -/

/-- Expressions of one group, in parentheses or alone, as text. -/
def groupTuple (g : Grammar) : Reader String := do
  if ← symbol "(" then
    let terms ← commas0 ")" g.anyExpr
    needSymbol ")"
    pure ("(" ++ termsText terms ++ ")")
  else pure ("(" ++ (← g.anyExpr).text ++ ")")

/-- As `groupTuple`, but a lone expression gets no parentheses. -/
def groupElement (g : Grammar) : Reader String := do
  if ← symbol "(" then
    let terms ← commas0 ")" g.anyExpr
    needSymbol ")"
    pure ("(" ++ termsText terms ++ ")")
  else pure (← g.anyExpr).text

def groupKey (g : Grammar) : Reader Term := do
  if (← dialect).hasGroupingSets then
    if ← keywords ["GROUPING", "SETS"] then
      let sets ← parenthesised (commas (groupTuple g))
      pure (.unseen ("GROUPING SETS (" ++ commaText sets ++ ")"))
    else if ← keyword "CUBE" then
      let sets ← parenthesised (commas (groupElement g))
      pure (.unseen ("CUBE (" ++ commaText sets ++ ")"))
    else if ← keyword "ROLLUP" then
      let sets ← parenthesised (commas (groupElement g))
      pure (.unseen ("ROLLUP (" ++ commaText sets ++ ")"))
    else if (← peek).any (isSymbol "(") && (← peekAt 1).any (isSymbol ")") then
      skip
      skip
      pure (.unseen "()")
    else g.anyExpr
  else g.anyExpr

def groupBy (g : Grammar) : Reader (Phrase (List Expr)) := do
  if ← keywords ["GROUP", "BY"] then
    let (text, exprs) ← if ← keyword "ALL" then pure ("ALL", [])
      else do
        let keys ← commas (groupKey g)
        pure (termsText keys, keys.map Term.expr)
    let modifiers ← if (← dialect).hasGroupModifiers then
        many do
          if ← keyword "WITH" then
            pure (some (" WITH " ++ (← needOneOf ["ROLLUP", "CUBE", "TOTALS"])))
          else pure none
      else pure []
    pure ⟨" GROUP BY " ++ text ++ String.join modifiers, exprs⟩
  else pure ⟨"", []⟩

/-- Expressions after two keywords, if these are next, as text. -/
def keyedExprs (g : Grammar) (keys : List String) : Reader String := do
  if ← keywords keys then pure (" " ++ Text.joinWith " " keys ++ " " ++ termsText (← g.exprs))
  else pure ""

def condition (g : Grammar) (key : String) : Reader (Option Term) := do
  if ← keyword key then pure (some (← g.anyExpr)) else pure none

def namedWindow (g : Grammar) : Reader String := do
  let name ← ident
  needKeyword "AS"
  if ← symbol "(" then pure (name.text ++ " AS " ++ (← windowSpec g))
  else if (← dialect) = .generic then pure (name.text ++ " AS " ++ (← ident).text)
  else expected "("

/-- `WINDOW` and `QUALIFY`, in the order in which they are written, as text. -/
def windowClauses (g : Grammar) : Reader String := do
  let windows : Reader String := do
    if ← keyword "WINDOW" then pure (" WINDOW " ++ commaText (← commas (namedWindow g)))
    else pure ""
  let qualify : Reader String := do
    pure (clause " QUALIFY " ((← condition g "QUALIFY").map Term.text))
  let first ← windows
  let second ← qualify
  if first.isEmpty && !second.isEmpty then pure (second ++ (← windows)) else pure (first ++ second)

/-! ## The block -/

/-- A block that begins with its relations and has no select list. -/
def bareBlock (items : List (Phrase FromItem)) : Phrase Select :=
  ⟨"FROM " ++ phrasesText items, ⟨false, [], items.map Phrase.node, none, [], none⟩⟩

/-- A SELECT block. The generic dialect allows the relations to come first. -/
def selectBlock (g : Grammar) : Reader (Phrase Select) := do
  let d ← dialect
  let early ← if ← only (d = .generic) (keyword "FROM") then pure (some (← fromItems g))
    else pure none
  match early, ← atKeyword "SELECT" with
  | some items, false => pure (bareBlock items)
  | _, _ =>
    needKeyword "SELECT"
    let distinct ← distinctText g
    let top ← topText g
    let empty ← only d.allowsEmptySelect (atKeyword "FROM")
    let items ← if empty then pure [] else selectList g
    let into ← intoText
    let relations ← match early with
      | some items => pure items
      | none => if ← keyword "FROM" then fromItems g else pure []
    let filter ← condition g "WHERE"
    let groups ← groupBy g
    let cluster ← keyedExprs g ["CLUSTER", "BY"]
    let distribute ← keyedExprs g ["DISTRIBUTE", "BY"]
    let sort ←
      if ← keywords ["SORT", "BY"] then pure (" SORT BY " ++ phrasesText (← commas (sortKey g)))
      else pure ""
    let having ← condition g "HAVING"
    let windows ← windowClauses g
    let fromText := if relations.isEmpty then "" else "FROM " ++ phrasesText relations
    pure
      ⟨(if early.isSome then fromText ++ " " else "") ++ "SELECT" ++ clause " " distinct ++ top ++
        spaced (phrasesText items) ++ into ++ (if early.isSome then "" else spaced fromText) ++
        clause " WHERE " (filter.map Term.text) ++ groups.text ++ cluster ++ distribute ++ sort ++
        clause " HAVING " (having.map Term.text) ++ windows,
       ⟨distinct.isSome, items.map Phrase.node, relations.map Phrase.node, filter.map Term.expr,
        groups.node, having.map Term.expr⟩⟩

end SqlAudit.Sql
