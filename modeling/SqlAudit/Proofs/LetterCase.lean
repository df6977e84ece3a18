import Mathlib
import SqlAudit.Proofs.Rewriting

/-! # Letter case of identifiers

Names are compared without regard to the case of ASCII letters, by different means: catalogs and
scopes are keyed by small letters, columns and indexes are compared one by one, and declared types
are read in capitals. A rewriting that keeps the letters of identifiers up to case changes none of
these answers, so it leaves the tables found for names, the scopes of FROM lists and the columns
that references mean.
-/

namespace SqlAudit

/-! ## Texts -/

theorem Text.lower_lower (s : String) : Text.lower (Text.lower s) = Text.lower s := by
  simp [Text.lower, Function.comp_def]

/-- Making letters small first does not matter to making them capital. -/
theorem Text.upper_lower (s : String) : Text.upper (Text.lower s) = Text.upper s := by
  simp [Text.upper, Text.lower, Function.comp_def]

/-- Texts that agree in small letters agree in capitals. -/
theorem Text.upper_eq_of_lower_eq {a b : String} (hlower : Text.lower a = Text.lower b) :
    Text.upper a = Text.upper b := by
  rw [← Text.upper_lower a, hlower, Text.upper_lower]

/-! ## Rewritings that keep letters -/

/-- The rewriting changes identifiers in the case of letters only. -/
def Rewriting.KeepsLetters (r : Rewriting) : Prop :=
  ∀ name, Text.lower (r.ident name) = Text.lower name

section Letters

variable {r : Rewriting} (hr : r.KeepsLetters)

include hr

theorem Rewriting.KeepsLetters.same_left (a b : String) :
    Text.same (r.ident a) b = Text.same a b := by
  rw [Text.same, Text.same, hr a]

theorem Rewriting.KeepsLetters.same_right (a b : String) :
    Text.same a (r.ident b) = Text.same a b := by
  rw [Text.same, Text.same, hr b]

/-- Type names are reduced alike in any case. -/
theorem TypeName.normalize_rewrite (declared : String) :
    TypeName.normalize (r.ident declared) = TypeName.normalize declared := by
  have hupper := Text.upper_eq_of_lower_eq (hr declared)
  unfold TypeName.normalize
  rw [hupper]

/-! ## Tables -/

theorem Table.column_rewrite (t : Table) (name : String) :
    t.column (r.ident name) = t.column name := by
  simp only [Table.column, hr.same_right]

theorem Table.indexesOn_rewrite (t : Table) (column : String) :
    t.indexesOn (r.ident column) = t.indexesOn column := by
  simp only [Table.indexesOn, Index.covers, hr.same_right]

omit hr in
theorem ObjectName.qualifier_rewrite (n : ObjectName) :
    (n.rewrite r).qualifier = n.qualifier.map r.ident := by
  rw [ObjectName.qualifier, ObjectName.qualifier, ObjectName.rewrite, ← List.map_dropLast,
    List.getLast?_map]

/-- The object's own name stays the same up to case. -/
theorem ObjectName.lower_base_rewrite (n : ObjectName) :
    Text.lower (n.rewrite r).base = Text.lower n.base := by
  rw [ObjectName.base, ObjectName.base, ObjectName.rewrite, List.getLast?_map]
  cases n.parts.getLast? with
  | none => rfl
  | some name => exact hr name

/-- A name finds the same table in any case. -/
theorem Context.table?_rewrite (ctx : Context) (name : ObjectName) :
    ctx.table? (name.rewrite r) = ctx.table? name := by
  have hfind : ctx.catalog.find? (name.rewrite r).base = ctx.catalog.find? name.base := by
    rw [Catalog.find?, Catalog.find?, name.lower_base_rewrite hr]
  rw [Context.table?, Context.table?, name.qualifier_rewrite, hfind]
  cases name.qualifier with
  | none => rfl
  | some qualifier =>
      cases ctx.settings.database with
      | none => rfl
      | some database => simp only [Option.map_some, hr.same_left]

/-! ## Scopes -/

/-- The scope of a rewritten FROM list binds the same tables to the same names. -/
theorem Scope.ofFrom_rewrite (ctx : Context) (items : List FromItem) :
    Scope.ofFrom ctx (items.map (FromItem.rewrite r)) = Scope.ofFrom ctx items := by
  rw [Scope.ofFrom_eq, Scope.ofFrom_eq, FromItem.leavesAll_rewrite, List.foldl_map]
  congr 1
  funext scope leaf
  cases leaf with
  | table name aliasName =>
      have hbinding : Text.lower ((aliasName.map r.ident).getD (name.rewrite r).base) =
          Text.lower (aliasName.getD name.base) := by
        cases aliasName with
        | none => exact name.lower_base_rewrite hr
        | some aliasName => exact hr aliasName
      rw [Relation.rewrite, bindLeaf, bindLeaf, bindTable, bindTable,
        ctx.table?_rewrite hr, hbinding]
  | _ => rfl

/-- A reference means the same column in any case. -/
theorem Scope.resolve_rewrite (scope : Scope) (ref : ColumnRef) :
    scope.resolve (ref.rewrite r) = scope.resolve ref := by
  obtain ⟨qualifier, name⟩ := ref
  cases qualifier with
  | none =>
      simp only [resolve, ColumnRef.rewrite, Option.map_none, holders, Table.column_rewrite hr]
  | some qualifier =>
      simp only [resolve, ColumnRef.rewrite, Option.map_some, table?, hr.same_right,
        Table.column_rewrite hr]

end Letters

end SqlAudit
