import SqlAudit.Sql.Expr.Call
import SqlAudit.Sql.Precedence

/-! # Fields and elements

After a value may follow `.name`, `.call(…)` and `[index]`. Names after names make one qualified
name, and a call after names is the call of a qualified name; all else is only text for the review.
-/

namespace SqlAudit.Sql

open Reader

inductive Link where
  | names (parts : List Ident)
  | call (t : Term)
  /-- Anything else, with its text. -/
  | other (text : String)

/-- A value with what follows it. -/
structure Chain where
  root : Term
  links : List Link

namespace Chain

def linkText : Link → String
  | .names parts => "." ++ namesText parts
  | .call t => "." ++ t.text
  | .other text => text

/-- The names of the root and of all links, if there are only names. -/
def names? (c : Chain) : Option (List Ident) :=
  match c.root.shape with
  | .name parts =>
    c.links.foldl (fun found link =>
      match found, link with
      | some parts, .names more => some (parts ++ more)
      | _, _ => none) (some parts)
  | _ => none

def term (c : Chain) : Term :=
  if c.links.isEmpty then c.root
  else
    match c.names? with
    | some parts => .ofName parts
    | none =>
      let text := c.root.text ++ String.join (c.links.map linkText)
      let qualified : Option (List Ident) := names? ⟨c.root, c.links.dropLast⟩
      match qualified, c.links.getLast? with
      | some parts, some (.call t) =>
        match t.expr with
        | .call name args wildcard distinct windowed =>
          ⟨text, .call (namesText parts ++ "." ++ name) args wildcard distinct windowed, .call⟩
        | _ => ⟨text, .other text, .access⟩
      | _, _ => ⟨text, .other text, .access⟩

end Chain

/-- An index or a slice in brackets, as text. -/
def subscript (g : Grammar) : Reader String := do
  let lower ← if ← symbol ":" then pure none else pure (some (← g.anyExpr).text)
  if ← symbol "]" then
    pure ("[" ++ lower.getD ":" ++ "]")
  else
    if lower.isSome then needSymbol ":"
    let start := "[" ++ lower.getD "" ++ ":"
    if ← symbol "]" then pure (start ++ "]")
    else
      let upper ← g.anyExpr
      if ← symbol "]" then pure (start ++ upper.text ++ "]")
      else
        needSymbol ":"
        if ← symbol "]" then pure (start ++ upper.text ++ "]")
        else
          let stride ← g.anyExpr
          needSymbol "]"
          pure (start ++ upper.text ++ ":" ++ stride.text ++ "]")

/-- What follows a dot: names, a literal, a call or a field of one of these, and otherwise any word.
-/
def dotLink (g : Grammar) : Reader Link := do
  match ← peek with
  | some { token := .string .single s, .. } => skip; pure (.names [⟨s, some '\x27'⟩])
  | some { token := .parameter s, .. } => skip; pure (.names [⟨s, none⟩])
  | _ =>
    let d ← dialect
    let found ← attempt do
      let t ← g.expr (Precedence.period.tightness d)
      match t.shape with
      | .name parts => pure (Link.names parts)
      | .call => pure (Link.call t)
      | .access | .number _ | .value => pure (Link.other ("." ++ t.text))
      | _ => expected "an identifier or value"
    match found with
    | some link => pure link
    | none => pure (.names [← ident])

/-- A value with all that follows it. In PostgreSQL the last dot may be followed by a star. -/
def accessed (g : Grammar) (root : Term) : Reader Term := do
  let d ← dialect
  let step (state : Chain × Bool) : Reader (Option (Chain × Bool)) := do
    let (c, star) := state
    if star then pure none
    else if ← atSymbol "." then
      if (← peekAt 1).any (isSymbol "*") then
        if d = .postgresql then
          skip
          skip
          pure (some (c, true))
        else pure none
      else
        skip
        pure (some (⟨c.root, c.links ++ [← dotLink g]⟩, false))
    else if ← symbol "[" then
      pure (some (⟨c.root, c.links ++ [.other (← subscript g)]⟩, false))
    else pure none
  let (c, star) ← grow step (⟨root, []⟩, false)
  if star then
    match c.names? with
    | some parts => pure (.unseen (namesText parts ++ ".*"))
    | none => expected "an identifier or a '*' after '.'"
  else pure c.term

end SqlAudit.Sql
