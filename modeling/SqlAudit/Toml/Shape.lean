import SqlAudit.Decimal.Shortest
import SqlAudit.Text.Quoted
import SqlAudit.Toml.Document

/-! # Shapes of values

A reader of settings says which shape it expects of a value. A value of another shape is a fault
that names both. Fields are visited in the order of their names.
-/

namespace SqlAudit.Toml

namespace Value

/-- The value as a fault names it. -/
def shown : Value → String
  | .scalar (.string s) _ => "string " ++ Text.quoted s
  | .scalar (.integer n) _ => "integer \x60" ++ toString n ++ "\x60"
  | .scalar (.float f) _ => "floating point \x60" ++ Decimal.text f ++ "\x60"
  | .scalar (.boolean b) _ => "boolean \x60" ++ (if b then "true" else "false") ++ "\x60"
  | .scalar (.date _) _ | .table _ _ => "map"
  | .array _ _ _ => "sequence"

/-- The fault of a value that has another shape than expected. -/
def unlike (v : Value) (expected : String) : Fault :=
  ⟨"invalid type: " ++ v.shown ++ ", expected " ++ expected, v.span⟩

def boolean (v : Value) : Except Fault Bool :=
  match v with
  | .scalar (.boolean b) _ => .ok b
  | _ => .error (v.unlike "a boolean")

def text (v : Value) : Except Fault String :=
  match v with
  | .scalar (.string s) _ => .ok s
  | _ => .error (v.unlike "a string")

/-- The value as a count below `2 ^ 64`. -/
def count (expected : String) (v : Value) : Except Fault Nat :=
  match v with
  | .scalar (.integer n) span =>
    if 0 ≤ n ∧ n.toNat < Nat.pow 2 64 then .ok n.toNat
    else if n < 0 ∧ n.natAbs ≤ Nat.pow 2 63 then
      .error ⟨"invalid value: integer \x60" ++ toString n ++ "\x60, expected " ++ expected, span⟩
    else if (if n < 0 then n.natAbs ≤ Nat.pow 2 127 else n.natAbs < Nat.pow 2 127) then
      .error ⟨"invalid type: integer \x60" ++ toString n ++ "\x60 as i128, expected " ++
        expected, span⟩
    else if 0 ≤ n ∧ n.toNat < Nat.pow 2 128 then
      .error ⟨"invalid type: integer \x60" ++ toString n ++ "\x60 as u128, expected " ++
        expected, span⟩
    else .error ⟨"integer number overflowed", span⟩
  | _ => .error (v.unlike expected)

def list {α : Type} (item : Value → Except Fault α) (v : Value) : Except Fault (List α) :=
  match v with
  | .array items _ _ => items.mapM item
  | _ => .error (v.unlike "a sequence")

def sortedFields (t : Table) : List (String × Value) :=
  t.fields.mergeSort fun a b => decide (a.1 ≤ b.1)

/-- The fields of a table or of a date, which has one. -/
def fields? : Value → Option (List (String × Value))
  | .table t _ => some (sortedFields t)
  | .scalar (.date written) span =>
    some [("$__toml_private_datetime", .scalar (.string written) span)]
  | _ => none

def mapping {α : Type} (item : Value → Except Fault α) (v : Value) :
    Except Fault (List (String × α)) :=
  match v.fields? with
  | some fields => fields.mapM fun f => do pure (f.1, ← item f.2)
  | none => .error (v.unlike "a map")

/-- The value as a record: the fields that are given, in the order of their names. A list gives the
fields in the order in which the record has them. -/
def record (expected : String) (names : List String) (v : Value) :
    Except Fault (List (String × Value)) :=
  match v with
  | .array items _ _ => .ok (names.zip items)
  | _ =>
    match v.fields? with
    | some fields => .ok fields
    | none => .error (v.unlike expected)

end Value

end SqlAudit.Toml
