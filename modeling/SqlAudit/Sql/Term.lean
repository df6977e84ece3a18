import SqlAudit.Sql.Ident
import SqlAudit.Tree.Statement

/-! # Phrases and terms

What is read of a statement has two sides: its normalised text, and what the review sees of it. A
phrase holds both. The text of a clause that the review does not see is in the text of the phrase
around it.
-/

namespace SqlAudit.Sql

/-- A part of a statement: its normalised text and what the review sees of it. -/
structure Phrase (α : Type) where
  text : String
  node : α

/-- What later steps of reading an expression ask of it. -/
inductive Shape where
  /-- A column, with the parts of its name. -/
  | name (parts : List Ident)
  /-- An unsigned number. -/
  | number (digits : String)
  /-- Another literal. -/
  | value
  | call
  /-- A field or an element of a value. -/
  | access
  /-- A query in parentheses. -/
  | subquery
  | plain
  deriving DecidableEq, Repr, Inhabited

structure Term where
  text : String
  expr : Expr
  shape : Shape

namespace Term

/-- An expression of which the review sees only the text. -/
def unseen (text : String) : Term :=
  ⟨text, .other text, .plain⟩

/-- An expression that the review sees. -/
def plain (text : String) (expr : Expr) : Term :=
  ⟨text, expr, .plain⟩

/-- The column with a name: the last part names it and the part before qualifies it. -/
def ofName (parts : List Ident) : Term :=
  ⟨namesText parts,
   .column ⟨parts.dropLast.getLast?.map Ident.value, (parts.getLast?.map Ident.value).getD ""⟩,
   .name parts⟩

def nested (t : Term) : Term :=
  ⟨"(" ++ t.text ++ ")", .nested t.expr, .plain⟩

end Term

def termsText (terms : List Term) : String :=
  commaText (terms.map Term.text)

def phrasesText {α : Type} (phrases : List (Phrase α)) : String :=
  commaText (phrases.map Phrase.text)

/-- A text with a space in front, or nothing if there is no text. -/
def spaced (text : String) : String :=
  if text.isEmpty then "" else " " ++ text

/-- A clause with its opening in front, or nothing if the clause is absent. -/
def clause (opening : String) (text : Option String) : String :=
  match text with
  | some t => opening ++ t
  | none => ""

end SqlAudit.Sql
