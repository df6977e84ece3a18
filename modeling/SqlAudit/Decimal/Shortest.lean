/-! # Shortest decimals

A binary floating-point number stands for all reals that round to it. Its shortest decimal is a
multiple of the greatest power of ten that has a multiple among them, and of those multiples the
nearest.
-/

namespace SqlAudit.Decimal

/-- A finite positive binary number: `mantissa * 2 ^ exponent`. The reals below it that round to it
are half as many where `narrow` holds. -/
structure Binary where
  mantissa : Nat
  exponent : Int
  narrow : Bool
  deriving DecidableEq, Repr

/-- The decimal `digits * 10 ^ exponent`. -/
structure Scaled where
  digits : Nat
  exponent : Int
  deriving DecidableEq, Repr

/-- The parts of the bits of a double, without its sign. There is none for infinities and what is no
number. -/
def Binary.ofBits (bits : Nat) : Option Binary :=
  let fraction : Nat := bits % Nat.pow 2 52
  let exponent : Nat := bits / Nat.pow 2 52 % Nat.pow 2 11
  if exponent = 2047 then none
  else if exponent = 0 then some ⟨fraction, -1074, false⟩
  else some ⟨Nat.pow 2 52 + fraction, (exponent : Int) - 1075, fraction = 0 && 1 < exponent⟩

/-- The multiple of `10 ^ power` that rounds to a number, the nearer one of two. -/
def multiple (b : Binary) (power : Int) : Option Scaled :=
  let unit := b.exponent - 2
  let top := Nat.pow 2 unit.toNat * Nat.pow 10 (-power).toNat
  let bottom := Nat.pow 2 (-unit).toNat * Nat.pow 10 power.toNat
  let value := 4 * b.mantissa * top
  let low := (4 * b.mantissa - (if b.narrow then 1 else 2)) * top
  let high := (4 * b.mantissa + 2) * top
  let inside (n : Nat) : Bool :=
    let x := n * bottom
    n != 0 && (if b.mantissa % 2 = 0 then low ≤ x && x ≤ high else low < x && x < high)
  let below := value / bottom
  let above := below + 1
  match inside below, inside above with
  | true, true =>
    if value - below * bottom ≤ above * bottom - value then some ⟨below, power⟩
    else some ⟨above, power⟩
  | true, false => some ⟨below, power⟩
  | false, true => some ⟨above, power⟩
  | false, false => none

def shortest (b : Binary) : Scaled :=
  if b.mantissa = 0 then ⟨0, 0⟩
  else ((List.range 650).findSome? fun (i : Nat) => multiple b (310 - (i : Int))).getD ⟨0, 0⟩

/-- A decimal without exponent and with at least one place. -/
def Scaled.positional (d : Scaled) : String :=
  let digits := (toString d.digits).toList
  if 0 ≤ d.exponent then String.ofList (digits ++ List.replicate d.exponent.toNat '0') ++ ".0"
  else
    let places := (-d.exponent).toNat
    let padded := List.replicate (places + 1 - digits.length) '0' ++ digits
    let whole := padded.length - places
    String.ofList (padded.take whole ++ ['.'] ++ padded.drop whole)

/-- The text of a double: its shortest decimal in positional form. -/
def text (f : Float) : String :=
  let bits := f.toBits.toNat
  let sign := if bits < Nat.pow 2 63 then "" else "-"
  match Binary.ofBits bits with
  | some b => sign ++ (shortest b).positional
  | none => if f.isNaN then "NaN" else sign ++ "inf"

end SqlAudit.Decimal
