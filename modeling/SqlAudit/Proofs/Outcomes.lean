import SqlAudit.Sql.Reader

/-! # Results of steps that may fail

Steps that may fail give a result only if each of them does. Readers are such steps, with the
lexemes that are left handed on from one to the next.
-/

namespace SqlAudit

/-- Two steps, one after the other, give a result only if both do. -/
theorem exists_ok_of_bind {ε α β : Type} {x : Except ε α} {f : α → Except ε β} {b : β}
    (h : (x >>= f) = .ok b) : ∃ a, x = .ok a ∧ f a = .ok b := by
  cases x with
  | error e => cases h
  | ok a => exact ⟨a, rfl, h⟩

theorem eq_ok_of_toOption {ε α : Type} {x : Except ε α} {a : α} (hx : x.toOption = some a) :
    x = .ok a := by
  cases x with
  | error e => cases hx
  | ok b =>
      cases hx
      rfl

namespace Sql.Reader

variable {α β : Type} {P : β → Prop}

/-- One reader after another: the second goes on where the first stopped. -/
theorem bind_apply (p : Reader α) (f : α → Reader β) (mode : Mode) (lexemes : List Lexeme) :
    (p >>= f) mode lexemes = (p mode lexemes >>= fun found => f found.1 mode found.2) := by
  change andThen p f mode lexemes = _
  unfold andThen
  cases p mode lexemes <;> rfl

theorem exists_ok_of_bind {p : Reader α} {f : α → Reader β} {mode : Mode}
    {lexemes rest : List Lexeme} {b : β} (h : (p >>= f) mode lexemes = .ok (b, rest)) :
    ∃ a more, p mode lexemes = .ok (a, more) ∧ f a mode more = .ok (b, rest) := by
  rw [bind_apply] at h
  obtain ⟨⟨a, more⟩, hp, hf⟩ := SqlAudit.exists_ok_of_bind h
  exact ⟨a, more, hp, hf⟩

/-- Whatever the reader gives has the property. -/
def Gives (P : β → Prop) (p : Reader β) : Prop :=
  ∀ mode lexemes b rest, p mode lexemes = .ok (b, rest) → P b

theorem Gives.pure {b : β} (hb : P b) : Gives P (Pure.pure b) := by
  rintro _ _ _ _ ⟨⟩
  exact hb

/-- What a sequence of readers gives is decided by the last of them. -/
theorem Gives.bind {p : Reader α} {f : α → Reader β} (hf : ∀ a, Gives P (f a)) :
    Gives P (p >>= f) := by
  intro _ _ _ _ h
  obtain ⟨a, _, -, hrest⟩ := exists_ok_of_bind h
  exact hf a _ _ _ _ hrest

theorem Gives.ite {c : Prop} [Decidable c] {p q : Reader β} (hp : Gives P p) (hq : Gives P q) :
    Gives P (if c then p else q) := by
  by_cases hc : c
  · rwa [if_pos hc]
  · rwa [if_neg hc]

end Sql.Reader

end SqlAudit
