import SqlAudit.Text.Hex
import SqlAudit.Text.Natural
import SqlAudit.Text.Pieces

/-! # Plain scalars that are not texts

A plain scalar reads back as null, as a boolean or as a number when it is spelled like one. A text
with such a spelling has to be quoted, and so has a run of digits with a leading zero, which some
readers take for a number.
-/

namespace SqlAudit.Render.Yaml

def reservedWords : List String :=
  ["", "~", "null", "Null", "NULL", "true", "True", "TRUE", "false", "False", "FALSE"]

def nonFiniteWords : List String :=
  [".inf", ".Inf", ".INF", "+.inf", "+.Inf", "+.INF", "-.inf", "-.Inf", "-.INF", ".nan", ".NaN",
   ".NAN"]

def digitBelow? (base : Nat) (c : Char) : Option Nat :=
  (Text.hexValue? c).filter (· < base)

/-- The value of a non-empty run of digits to a base. -/
def radixValue? (base : Nat) (cs : List Char) : Option Nat :=
  if cs.isEmpty then none
  else cs.foldl (fun acc c => acc.bind fun n => (digitBelow? base c).map (base * n + ·)) (some 0)

/-- The base that the letter behind a leading zero announces. -/
def radixOf? : Char → Option Nat
  | 'x' => some 16
  | 'o' => some 8
  | 'b' => some 2
  | _ => none

/-- The characters are an integer with a marked base, of at most the given value. -/
def isMarkedInteger (most : Nat) : List Char → Bool
  | '0' :: mark :: digits =>
    match radixOf? mark with
    | some base => ((radixValue? base digits).filter (· ≤ most)).isSome
    | none => false
  | _ => false

/-- The sign in front, if any, and the rest. -/
def splitSign : List Char → Option Char × List Char
  | '+' :: cs => (some '+', cs)
  | '-' :: cs => (some '-', cs)
  | cs => (none, cs)

/-- A run of digits with a leading zero behind an optional sign. -/
def isZeroPadded (cs : List Char) : Bool :=
  match (splitSign cs).2 with
  | '0' :: digits => !digits.isEmpty && digits.all Char.isDigit
  | _ => false

/-- The decimal digits of a number with the power of ten that its last digit counts. -/
structure Decimal where
  digits : List Char
  power : Int

/-- Reads a decimal number without sign: digits with at most one point among them, then an optional
exponent. -/
def Decimal.ofChars? (cs : List Char) : Option Decimal :=
  let whole := cs.takeWhile Char.isDigit
  let afterWhole := cs.drop whole.length
  let (fraction, afterFraction) :=
    match afterWhole with
    | '.' :: rest => (rest.takeWhile Char.isDigit, rest.dropWhile Char.isDigit)
    | rest => ([], rest)
  let digits := whole ++ fraction
  if digits.isEmpty then none
  else
    match afterFraction with
    | [] => some ⟨digits, -fraction.length⟩
    | mark :: rest =>
      let (sign, exponent) := splitSign rest
      if (mark = 'e' ∨ mark = 'E') ∧ !exponent.isEmpty ∧ exponent.all Char.isDigit then
        let magnitude : Int := Text.digitsValue exponent
        some ⟨digits, (if sign = some '-' then -magnitude else magnitude) - fraction.length⟩
      else none

/-- The least number that is too large for a double: halfway between the largest one and `2 ^ 1024`.
-/
def doubleBound : Nat :=
  Nat.pow 2 1024 - Nat.pow 2 970

/-- The number lies below the bound of the doubles. The number of places in front of the point
settles all but the close cases. -/
def Decimal.isFinite (d : Decimal) : Bool :=
  let significant := d.digits.dropWhile (· = '0')
  let places : Int := significant.length + d.power
  if significant.isEmpty || places < 300 then true
  else if places > 400 then false
  else if d.power < 0 then
    decide (Text.digitsValue significant < doubleBound * Nat.pow 10 d.power.natAbs)
  else decide (Text.digitsValue significant * Nat.pow 10 d.power.natAbs < doubleBound)

/-- The characters are a finite decimal number with an optional sign. -/
def isFiniteDecimal (cs : List Char) : Bool :=
  match Decimal.ofChars? (splitSign cs).2 with
  | some d => d.isFinite
  | none => false

/-- The text, written plainly, would not read back as that text. -/
def isReserved (s : String) : Bool :=
  let cs := s.toList
  let (sign, rest) := splitSign cs
  reservedWords.contains s || nonFiniteWords.contains s || isZeroPadded cs ||
    isMarkedInteger (if sign = some '-' then Nat.pow 2 127 else Nat.pow 2 128 - 1) rest ||
      isFiniteDecimal cs

end SqlAudit.Render.Yaml
