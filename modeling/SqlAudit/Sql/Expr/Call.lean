import SqlAudit.Sql.Grammar
import SqlAudit.Sql.Literal

/-! # Function calls

A call has a name, arguments, and clauses for aggregates and windows. The review sees the name, the
arguments and whether there is a window.
-/

namespace SqlAudit.Sql

open Reader

/-- A value, or a star in the place of one. -/
inductive Starred where
  | all
  | allOf (parts : List Ident)
  | term (t : Term)

/-- Names with dots between them up to a star, if that is what stands here. A dot before anything
else than a name or a star is refused. -/
def starredName : Reader (Option (List Ident)) := do
  let first ← peek
  let dot ← peekAt 1
  match first.bind (fun lexeme =>
      match lexeme.token with
      | .word _ _ | .string .single _ => Ident.ofToken? lexeme.token
      | _ => none), dot.any (isSymbol ".") with
  | some i, true =>
    skip
    let part (found : List Ident × Bool) : Reader (Option (List Ident × Bool)) := do
      if found.2 then pure none
      else if ← symbol "." then
        match ← peek with
        | some { token := .word s q, .. } => skip; pure (some (found.1 ++ [⟨s, q⟩], false))
        | some { token := .string .single s, .. } =>
          skip; pure (some (found.1 ++ [⟨s, some '\x27'⟩], false))
        | some { token := .symbol "*", .. } => skip; pure (some (found.1, true))
        | _ => expected "an identifier or a '*' after '.'"
      else pure none
    let (parts, star) ← grow part ([i], false)
    pure (if star then some parts else none)
  | _, _ => pure none

def starred (g : Grammar) : Reader Starred := do
  if ← symbol "*" then pure .all
  else
    match ← retract starredName with
    | some parts => pure (.allOf parts)
    | none => pure (.term (← g.anyExpr))

def sortKey (g : Grammar) : Reader (Phrase SortKey) := do
  let t ← g.anyExpr
  let direction ← oneOf ["ASC", "DESC"]
  let nulls ← oneOfPhrases [["NULLS", "FIRST"], ["NULLS", "LAST"]]
  pure ⟨t.text ++ clause " " direction ++ clause " " nulls, ⟨t.expr, direction.map (· == "ASC")⟩⟩

/-- `IGNORE NULLS` or `RESPECT NULLS`, if one is next. -/
def nullTreatment : Reader (Option String) := do
  match ← oneOf ["RESPECT", "IGNORE"] with
  | some key =>
    needKeyword "NULLS"
    pure (some (key ++ " NULLS"))
  | none => pure none

/-! ## Windows -/

def frameBound (g : Grammar) : Reader String := do
  if ← keywords ["CURRENT", "ROW"] then pure "CURRENT ROW"
  else
    let rows ← if ← keyword "UNBOUNDED" then pure "UNBOUNDED" else pure (← g.anyExpr).text
    match ← oneOf ["PRECEDING", "FOLLOWING"] with
    | some side => pure (rows ++ " " ++ side)
    | none => expected "PRECEDING or FOLLOWING"

def windowFrame (g : Grammar) : Reader String := do
  match ← oneOf ["ROWS", "RANGE", "GROUPS"] with
  | none => expected "ROWS, RANGE, GROUPS"
  | some units =>
    if ← keyword "BETWEEN" then
      let first ← frameBound g
      needKeyword "AND"
      let last ← frameBound g
      pure (units ++ " BETWEEN " ++ first ++ " AND " ++ last)
    else pure (units ++ " " ++ (← frameBound g))

/-- A window up to its closing parenthesis. -/
def windowSpec (g : Grammar) : Reader String := do
  let name ← match ← peek with
    | some { token := .word _ _, key := key, .. } =>
      if ["PARTITION", "ORDER", "ROWS", "RANGE", "GROUPS"].contains key then pure none else ident?
    | _ => pure none
  let partition ← if ← keywords ["PARTITION", "BY"] then pure (some (termsText (← g.exprs)))
    else pure none
  let order ← if ← keywords ["ORDER", "BY"] then pure (some (phrasesText (← commas (sortKey g))))
    else pure none
  let frame ← if ← symbol ")" then pure none
    else do
      let frame ← windowFrame g
      needSymbol ")"
      pure (some frame)
  pure ("(" ++ Text.joinWith " "
    ((name.map Ident.text).toList ++ (partition.map ("PARTITION BY " ++ ·)).toList ++
      (order.map ("ORDER BY " ++ ·)).toList ++ frame.toList) ++ ")")

def window (g : Grammar) : Reader String := do
  if ← symbol "(" then windowSpec g else pure (← ident).text

/-! ## Arguments -/

structure Arguments where
  text : String
  exprs : List Expr
  wildcard : Bool
  distinct : Bool

/-- An argument, where a star is nothing. -/
def argumentOf : Starred → Phrase (Option Expr)
  | .all => ⟨"*", none⟩
  | .allOf parts => ⟨namesText parts ++ ".*", none⟩
  | .term t => ⟨t.text, some t.expr⟩

/-- The symbol between the name of an argument and its value. -/
def namedArgument : Reader String := do
  let d ← dialect
  if ← symbol "=>" then pure "=>"
  else if ← only (d = .generic || d = .postgresql) (symbol ":=") then pure ":="
  else if ← only (d = .postgresql) (symbol ":") then pure ":"
  else expected "argument operator"

/-- An argument of a call, which may be named. -/
def argument (g : Grammar) : Reader (Phrase (Option Expr)) := do
  if (← dialect) = .postgresql then
    let first ← starred g
    let named ← attempt do
      let op ← namedArgument
      let value ← starred g
      pure (op, argumentOf value)
    match named with
    | some (op, value) =>
      pure ⟨(argumentOf first).text ++ " " ++ op ++ " " ++ value.text, value.node⟩
    | none => pure (argumentOf first)
  else
    let named ← attempt do
      let name ← ident
      let op ← namedArgument
      let value ← starred g
      pure (name, op, argumentOf value)
    match named with
    | some (name, op, value) => pure ⟨name.text ++ " " ++ op ++ " " ++ value.text, value.node⟩
    | none => pure (argumentOf (← starred g))

/-- A clause after the arguments, if it is next. -/
def argumentClause (allowed : Bool) (keys : List String) (body : Reader String) :
    Reader (List String) := do
  if ← only allowed (keywords keys) then pure [Text.joinWith " " keys ++ " " ++ (← body)]
  else pure []

/-- The arguments of a call up to its closing parenthesis. -/
def arguments (g : Grammar) : Reader Arguments := do
  if ← symbol ")" then pure ⟨"", [], false, false⟩
  else
    let d ← dialect
    let all ← keyword "ALL"
    let distinct ← keyword "DISTINCT"
    if all && distinct then wrong "Cannot specify both ALL and DISTINCT"
    let found ← commas (argument g)
    let nulls ← if d = .generic then nullTreatment else pure none
    let order ← argumentClause true ["ORDER", "BY"] (do pure (phrasesText (← commas (sortKey g))))
    let limit ← argumentClause true ["LIMIT"] (do pure (← g.anyExpr).text)
    let having ← argumentClause (d = .generic) ["HAVING"] (do
      let bound ← needOneOf ["MIN", "MAX"]
      pure (bound ++ " " ++ (← g.anyExpr).text))
    let separator ← argumentClause (d = .generic || d = .mysql) ["SEPARATOR"]
      (do pure (← value).text)
    needSymbol ")"
    let clauses := nulls.toList ++ order ++ limit ++ having ++ separator
    pure
      ⟨(if all then "ALL " else if distinct then "DISTINCT " else "") ++ phrasesText found ++
        spaced (Text.joinWith " " clauses),
       found.filterMap Phrase.node, found.any fun a => a.node.isNone, distinct⟩

/-! ## Calls -/

/-- The clauses after the arguments, as text, and whether there is a window. -/
def callClauses (g : Grammar) : Reader (String × Bool) := do
  let group ← if ← keywords ["WITHIN", "GROUP"] then do
      let keys ← parenthesised do
        needKeywords ["ORDER", "BY"]
        commas (sortKey g)
      pure (" WITHIN GROUP (ORDER BY " ++ phrasesText keys ++ ")")
    else pure ""
  let filter ←
    if ← only (← dialect).filtersAggregates (keyword "FILTER") then
      if ← symbol "(" then
        if ← keyword "WHERE" then do
          let t ← g.anyExpr
          needSymbol ")"
          pure (" FILTER (WHERE " ++ t.text ++ ")")
        else pure ""
      else pure ""
    else pure ""
  let nulls ← nullTreatment
  let frame ← if ← keyword "OVER" then pure (some (← window g)) else pure none
  pure (group ++ filter ++ clause " " nulls ++ clause " OVER " frame, frame.isSome)

def callOf (g : Grammar) (name : List Ident) : Reader Term := do
  needSymbol "("
  let first ← arguments g
  let second ← if ← only ((← dialect) = .generic) (symbol "(") then pure (some (← arguments g))
    else pure none
  let given := second.getD first
  let parameters := if second.isSome then "(" ++ first.text ++ ")" else ""
  let (clauses, windowed) ← callClauses g
  pure
    ⟨namesText name ++ parameters ++ "(" ++ given.text ++ ")" ++ clauses,
     .call (namesText name) given.exprs given.wildcard given.distinct windowed, .call⟩

end SqlAudit.Sql
