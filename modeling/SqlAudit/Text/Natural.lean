/-! # Numbers read from text

Counts, limits and offsets are natural numbers below `2 ^ 64`, written in ASCII digits. A number
that does not fit is refused rather than wrapped.
-/

namespace SqlAudit.Text

/-- The bound on every count the library reads. -/
def countBound : Nat := Nat.pow 2 64

/-- The value of a run of ASCII digits, most significant first. -/
def digitsValue (cs : List Char) : Nat :=
  cs.foldl (fun n c => 10 * n + (c.toNat - '0'.toNat)) 0

/-- Reads a non-empty run of ASCII digits below the bound. -/
def readDigits (cs : List Char) : Option Nat :=
  if !cs.isEmpty && cs.all Char.isDigit && digitsValue cs < countBound then some (digitsValue cs)
  else none

/-- Reads a count: an optional plus sign and a non-empty run of digits below the bound. -/
def readCount (s : String) : Option Nat :=
  match s.toList with
  | '+' :: cs => readDigits cs
  | cs => readDigits cs

end SqlAudit.Text
