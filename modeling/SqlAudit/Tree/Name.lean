import SqlAudit.Text.Pieces

/-! # Object names

A table or index is named by one or more parts, the outermost qualifier first. The last part is the
object itself, and the part before it, if any, is the database it belongs to.
-/

namespace SqlAudit

/-- A possibly qualified object name, outermost qualifier first. -/
structure ObjectName where
  parts : List String
  deriving DecidableEq, Repr, Inhabited

namespace ObjectName

/-- The object itself: the last part, or the empty text of a name without parts. -/
def base (n : ObjectName) : String :=
  n.parts.getLast?.getD ""

/-- The part directly in front of the object, if there is one. -/
def qualifier (n : ObjectName) : Option String :=
  n.parts.dropLast.getLast?

/-- The name as it is written: its parts with dots between them. -/
def toText (n : ObjectName) : String :=
  Text.joinWith "." n.parts

/-- Reads a dotted name; every dot separates two parts, which may be empty. -/
def ofText (s : String) : ObjectName :=
  ⟨Text.splitOn '.' s⟩

end ObjectName

end SqlAudit
