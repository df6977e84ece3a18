import SqlAudit.Text.Blank
import SqlAudit.Text.Digit
import SqlAudit.Tree.Expr

/-! # Kinds of literals

What a literal looks like decides whether a column can be compared with it as it is. A string is a
date string when, without surrounding blanks, it has the form `Y-M-D`, optionally followed by a
blank or `T` and a time of day with optional seconds and fraction.
-/

namespace SqlAudit

inductive LiteralKind where
  | number
  | string
  | dateString
  deriving DecidableEq, Repr, Inhabited

namespace DateText

/-- Drops between `least` and `most` digits, as many as there are. -/
def dropDigits (least most : Nat) (cs : List Char) : Option (List Char) :=
  let run := (cs.take most).takeWhile Text.isDecimalDigit
  if least ≤ run.length then some (cs.drop run.length) else none

/-- Drops one of the given characters. -/
def dropOne (choices : List Char) : List Char → Option (List Char)
  | c :: cs => if c ∈ choices then some cs else none
  | [] => none

/-- The fraction of a second, if any, ends the text. -/
def isFraction : List Char → Bool
  | [] => true
  | '.' :: cs => !cs.isEmpty && cs.all Text.isDecimalDigit
  | _ => false

/-- The seconds, if any, end the text. -/
def isSeconds : List Char → Bool
  | [] => true
  | ':' :: cs =>
    match dropDigits 2 2 cs with
    | some rest => isFraction rest
    | none => false
  | _ => false

/-- The time of day, if any, ends the text. -/
def isTime : List Char → Bool
  | [] => true
  | cs =>
    let afterMinutes := do
      let hours ← dropOne [' ', 'T'] cs
      let colon ← dropDigits 1 2 hours
      let minutes ← dropOne [':'] colon
      dropDigits 2 2 minutes
    match afterMinutes with
    | some rest => isSeconds rest
    | none => false

/-- The characters are a date with an optional time of day. -/
def isDate (cs : List Char) : Bool :=
  let afterDay := do
    let month ← (dropDigits 4 4 cs).bind (dropOne ['-'])
    let day ← (dropDigits 1 2 month).bind (dropOne ['-'])
    dropDigits 1 2 day
  match afterDay with
  | some rest => isTime rest
  | none => false

end DateText

namespace LiteralKind

/-- The kind of a literal; booleans, nulls and parameters have none. -/
def ofLiteral : Literal → Option LiteralKind
  | .number _ => some .number
  | .string text =>
    if DateText.isDate (Text.trimChars text.toList) then some .dateString else some .string
  | .boolean _ | .null | .placeholder _ => none

def label : LiteralKind → String
  | .number => "numeric"
  | .string => "string"
  | .dateString => "date string"

end LiteralKind

end SqlAudit
