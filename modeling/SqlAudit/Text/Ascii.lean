/-! # Case of ASCII letters

Names are compared without regard to the case of ASCII letters; every other character, letters of
other scripts included, stands for itself. `lower` and `upper` are the two case maps and `same` is
equality after either of them.
-/

namespace SqlAudit.Text

/-- The text with its ASCII capitals made small. -/
def lower (s : String) : String :=
  String.ofList (s.toList.map Char.toLower)

/-- The text with its small ASCII letters made capital. -/
def upper (s : String) : String :=
  String.ofList (s.toList.map Char.toUpper)

/-- Equality that ignores the case of ASCII letters. -/
def same (a b : String) : Bool :=
  lower a == lower b

end SqlAudit.Text
