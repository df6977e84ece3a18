import Mathlib.Data.List.Induction
import Mathlib.Data.Nat.Digits.Defs
import SqlAudit.Text.Natural

/-! # Numerals

What it means for a text to denote a number: it is a non-empty run of ASCII digits, read in base
ten. A count is read from exactly the numerals below the bound, with or without a plus sign in
front. A numeral above the bound is refused like a text that is no numeral at all.
-/

namespace SqlAudit.Text

/-- The characters are a non-empty run of ASCII digits that denotes the number, most significant
first. -/
structure IsNumeral (cs : List Char) (n : Nat) : Prop where
  ne_nil : cs ≠ []
  digits : ∀ c ∈ cs, c.isDigit = true
  value : Nat.ofDigits 10 (cs.map fun c => c.toNat - '0'.toNat).reverse = n

theorem isNumeral_iff {cs : List Char} {n : Nat} :
    IsNumeral cs n ↔
      (cs ≠ [] ∧ cs.all Char.isDigit = true) ∧
        Nat.ofDigits 10 (cs.map fun c => c.toNat - '0'.toNat).reverse = n := by
  rw [List.all_eq_true]
  constructor
  · intro hn
    exact ⟨⟨hn.ne_nil, hn.digits⟩, hn.value⟩
  · rintro ⟨⟨hne, hdigits⟩, hvalue⟩
    exact ⟨hne, hdigits, hvalue⟩

instance (cs : List Char) (n : Nat) : Decidable (IsNumeral cs n) :=
  decidable_of_iff' _ isNumeral_iff

theorem IsNumeral.unique {cs : List Char} {n m : Nat} (hn : IsNumeral cs n) (hm : IsNumeral cs m) :
    n = m :=
  hn.value.symm.trans hm.value

/-- The value is the usual one of decimal digits. -/
theorem digitsValue_eq_ofDigits (cs : List Char) :
    digitsValue cs = Nat.ofDigits 10 (cs.map fun c => c.toNat - '0'.toNat).reverse := by
  -- The last digit is the one that is added last and the least significant one.
  induction cs using List.reverseRecOn with
  | nil => rfl
  | append_singleton cs c ih =>
      have hlast : digitsValue (cs ++ [c]) = 10 * digitsValue cs + (c.toNat - '0'.toNat) := by
        rw [digitsValue, List.foldl_append]
        rfl
      rw [hlast, ih, List.map_append, List.map_singleton, List.reverse_concat, Nat.ofDigits_cons,
        Nat.add_comm]

/-- The reader accepts the numerals below the bound. -/
theorem readDigits_eq_some_iff {cs : List Char} {n : Nat} :
    readDigits cs = some n ↔ IsNumeral cs n ∧ n < countBound := by
  have hcondition :
      (!cs.isEmpty && cs.all Char.isDigit && decide (digitsValue cs < countBound)) = true ↔
        (cs ≠ [] ∧ cs.all Char.isDigit = true) ∧ digitsValue cs < countBound := by
    simp
  rw [readDigits, Option.ite_none_right_eq_some, hcondition, Option.some_inj,
    digitsValue_eq_ofDigits, isNumeral_iff]
  constructor
  · rintro ⟨⟨hdigits, hbound⟩, rfl⟩
    exact ⟨⟨hdigits, rfl⟩, hbound⟩
  · rintro ⟨⟨hdigits, rfl⟩, hbound⟩
    exact ⟨⟨hdigits, hbound⟩, rfl⟩

theorem not_isNumeral_plus {cs : List Char} {n : Nat} : ¬ IsNumeral ('+' :: cs) n := by
  intro hn
  have hplus : '+'.isDigit = true := hn.digits '+' List.mem_cons_self
  cases hplus

/-- A count is read from the numerals below the bound, alone or behind a plus sign. -/
theorem readCount_eq_some_iff {s : String} {n : Nat} :
    readCount s = some n ↔
      (IsNumeral s.toList n ∨ ∃ cs, s.toList = '+' :: cs ∧ IsNumeral cs n) ∧ n < countBound := by
  unfold readCount
  split
  next cs hplus =>
    rw [readDigits_eq_some_iff, hplus]
    simp [not_isNumeral_plus]
  next cs hplain =>
    rw [readDigits_eq_some_iff]
    have hnone : ¬ ∃ rest, s.toList = '+' :: rest ∧ IsNumeral rest n :=
      fun ⟨rest, heq, _⟩ => hplain rest heq
    simp [hnone]

/-- A numeral is read as the number that it denotes, unless the number is too large. -/
theorem IsNumeral.readCount_eq_some_iff {s : String} {n m : Nat} (hn : IsNumeral s.toList n) :
    readCount s = some m ↔ m = n ∧ n < countBound := by
  rw [Text.readCount_eq_some_iff]
  constructor
  · rintro ⟨hm | ⟨cs, hplus, -⟩, hbound⟩
    · obtain rfl := hm.unique hn
      exact ⟨rfl, hbound⟩
    · rw [hplus] at hn
      exact absurd hn not_isNumeral_plus
  · rintro ⟨rfl, hbound⟩
    exact ⟨Or.inl hn, hbound⟩

end SqlAudit.Text
