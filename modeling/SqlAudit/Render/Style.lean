import SqlAudit.Review.Finding

/-! # Coloured text

A coloured text stands between a sequence that switches its style on and one that switches every
style off. Where the text itself holds a sequence that switches styles off, its own style is
switched on again behind it.
-/

namespace SqlAudit.Render

inductive Style where
  /-- The heading of a statement. -/
  | heading
  /-- The label of a severity. -/
  | severity (level : Severity)
  /-- The list of rules that broke down. -/
  | breakdown
  /-- The title of the rule table. -/
  | title
  deriving DecidableEq, Repr, Inhabited

namespace Style

def codes : Style → String
  | .heading => "1;36"
  | .severity .blocker => "1;31"
  | .severity .critical => "1;33"
  | .severity .minor => "34"
  | .breakdown => "35"
  | .title => "1"

def start (s : Style) : String :=
  "\x1b[" ++ s.codes ++ "m"

def stop : String :=
  "\x1b[0m"

/-- The text with the style switched on again behind each sequence that switches styles off. -/
def resume (on : List Char) : List Char → List Char
  | '\x1b' :: '[' :: '0' :: 'm' :: rest => '\x1b' :: '[' :: '0' :: 'm' :: (on ++ resume on rest)
  | c :: rest => c :: resume on rest
  | [] => []

/-- The text in the style when colours are on, and the text itself otherwise. -/
def paint (s : Style) (colored : Bool) (text : String) : String :=
  if colored then
    s.start ++ String.ofList (resume s.start.toList text.toList) ++ stop
  else text

end Style

end SqlAudit.Render
