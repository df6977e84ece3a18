import SqlAudit.Text.Pieces

/-! # Faults in TOML text

A fault has a reason and a span of the text. It is shown with the line in which it begins, and with
a mark under the span.
-/

namespace SqlAudit.Toml

/-- A span of a text, counted in characters from zero; the end is not part of it. -/
structure Span where
  start : Nat
  stop : Nat
  deriving DecidableEq, Repr, Inhabited

namespace Span

/-- The empty span in front of a span. -/
def before (s : Span) : Span := ⟨s.start, s.start⟩

/-- The empty span behind a span. -/
def behind (s : Span) : Span := ⟨s.stop, s.stop⟩

/-- From the start of one span to the end of another. -/
def through (s t : Span) : Span := ⟨s.start, t.stop⟩

end Span

structure Fault where
  what : String
  span : Span
  deriving DecidableEq, Repr, Inhabited

namespace Fault

/-- The line and the column of a position, counted from zero. Behind the last character is one
column further. -/
def place (cs : List Char) (index : Nat) : Nat × Nat :=
  match cs with
  | [] => (0, index)
  | _ =>
    let inside := min index (cs.length - 1)
    let front := cs.take inside
    let column := (front.reverse.takeWhile (· != '\n')).length
    (front.count '\n', column + (index - inside))

def byteCount (cs : List Char) : Nat :=
  (String.ofList cs).utf8ByteSize

def times (n : Nat) (c : Char) : String :=
  String.ofList (List.replicate n c)

/-- The fault with the line of the text in which it begins. -/
def render (source : String) (f : Fault) : String :=
  let cs := source.toList
  let (line, column) := place cs f.span.start
  let number := toString (line + 1)
  let gutter := times (number.length + 1) ' '
  let content := ((Text.splitOn '\n' source)[line]?).getD ""
  let width :=
    min (byteCount ((cs.take f.span.stop).drop f.span.start)) (content.utf8ByteSize - column)
  "TOML parse error at line " ++ number ++ ", column " ++ toString (column + 1) ++ "\n" ++
    gutter ++ "|\n" ++
    number ++ " | " ++ content ++ "\n" ++
    gutter ++ "|" ++ times (column + 1) ' ' ++ times (max width 1) '^' ++ "\n" ++
    f.what ++ "\n"

end Fault

end SqlAudit.Toml
