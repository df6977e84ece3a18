import SqlAudit.Proofs.IndexedColumns
import SqlAudit.Proofs.Leaves
import SqlAudit.Proofs.LetterCase

/-! # What column references mean

A scope is built by going through the leaves of a FROM list. A leaf that is a plain table known to
the catalog adds a binding; any other leaf makes the scope incomplete. So the meaning of a column
reference can be read off the leaves: an unqualified name needs that all of them are known and that
one of them alone has the column, whereas a qualified name only looks at the first known leaf that
goes by the qualifier.
-/

namespace SqlAudit

/-! ## Columns of a table -/

/-- The column is the first one of the table that has the name in some case. -/
def Table.FirstColumn (t : Table) (name : String) (c : Column) : Prop :=
  ∃ before after, t.columns = before ++ c :: after ∧ Text.lower c.name = Text.lower name ∧
    ∀ other ∈ before, Text.lower other.name ≠ Text.lower name

/-- Looking a column up finds the first of that name. -/
theorem Table.column_eq_some_iff {t : Table} {name : String} {c : Column} :
    t.column name = some c ↔ t.FirstColumn name c := by
  rw [Table.column, List.find?_eq_some_iff_append]
  simp only [Text.same, beq_iff_eq, Bool.not_eq_true', beq_eq_false_iff_ne]
  constructor
  · rintro ⟨hname, before, after, hcolumns, hbefore⟩
    exact ⟨before, after, hcolumns, hname, hbefore⟩
  · rintro ⟨before, after, hcolumns, hname, hbefore⟩
    exact ⟨hname, before, after, hcolumns, hbefore⟩

theorem Table.column_eq_none_iff {t : Table} {name : String} :
    t.column name = none ↔ ¬ t.HasColumn name := by
  simp [Table.column, Table.HasColumn, Text.same]

/-! ## Bindings and leaves -/

/-- The name that a leaf goes by and the table that it reads, if it is a plain table that the
catalog knows: an alias replaces the last part of the table's name. -/
def Relation.known (ctx : Context) : Relation → Option (String × Table)
  | .table name aliasName => (ctx.table? name).map (aliasName.getD name.base, ·)
  | _ => none

/-- A known relation is bound under its lowercase name. -/
theorem Scope.bindLeaf_of_known {ctx : Context} {leaf : Relation} {called : String} {t : Table}
    (hknown : leaf.known ctx = some (called, t)) (scope : Scope) :
    bindLeaf ctx scope leaf =
      { scope with bindings := scope.bindings ++ [(Text.lower called, t)] } := by
  cases leaf with
  | table name aliasName =>
      obtain ⟨_, htable, heq⟩ := Option.map_eq_some_iff.mp hknown
      cases heq
      rw [bindLeaf, bindTable, htable]
  | _ => cases hknown

/-- An unknown relation binds nothing and leaves the scope incomplete. -/
theorem Scope.bindLeaf_of_unknown {ctx : Context} {leaf : Relation}
    (hunknown : leaf.known ctx = none) (scope : Scope) :
    bindLeaf ctx scope leaf = { scope with complete := false } := by
  cases leaf with
  | table name aliasName =>
      have htable := Option.map_eq_none_iff.mp hunknown
      rw [bindLeaf, bindTable, htable]
  | _ => rfl

/-- Binding leaves adds the known ones in order, and the scope stays complete if all of them are
known. -/
theorem Scope.foldl_bindLeaf (ctx : Context) (leaves : List Relation) (scope : Scope) :
    leaves.foldl (bindLeaf ctx) scope =
      ⟨scope.bindings ++
          (leaves.filterMap (·.known ctx)).map (fun known => (Text.lower known.1, known.2)),
        scope.complete && leaves.all fun leaf => (leaf.known ctx).isSome⟩ := by
  induction leaves generalizing scope with
  | nil => simp
  | cons leaf rest ih =>
      rw [List.foldl_cons, ih]
      cases hknown : leaf.known ctx with
      | none => simp [bindLeaf_of_unknown hknown, hknown]
      | some known => simp [bindLeaf_of_known hknown, hknown]

/-- The bindings of a FROM list are its known relations, in order. -/
theorem Scope.bindings_ofFrom (ctx : Context) (items : List FromItem) :
    (ofFrom ctx items).bindings =
      ((FromItem.leavesAll items).filterMap (·.known ctx)).map
        fun known => (Text.lower known.1, known.2) := by
  rw [ofFrom_eq, foldl_bindLeaf]
  rfl

/-- The scope is complete if every relation is known. -/
theorem Scope.complete_ofFrom (ctx : Context) (items : List FromItem) :
    (ofFrom ctx items).complete = true ↔
      ∀ leaf ∈ FromItem.leavesAll items, (leaf.known ctx).isSome = true := by
  rw [ofFrom_eq, foldl_bindLeaf]
  simp [empty]

/-- The tables in scope are those of the known leaves, in the order of the leaves. -/
theorem Scope.tables_ofFrom (ctx : Context) (items : List FromItem) :
    (ofFrom ctx items).tables =
      (FromItem.leavesAll items).filterMap fun leaf => (leaf.known ctx).map Prod.snd := by
  rw [tables, bindings_ofFrom, List.map_map, List.map_filterMap]
  rfl

/-! ## Unqualified names -/

/-- Exactly one result means exactly one element with a result. -/
theorem filterMap_eq_singleton_iff {α β : Type} {f : α → Option β} {l : List α} {y : β} :
    l.filterMap f = [y] ↔
      ∃ before x after, l = before ++ x :: after ∧ f x = some y ∧
        ∀ other ∈ before ++ after, f other = none := by
  simp only [List.filterMap_eq_cons_iff, List.filterMap_eq_nil_iff, List.forall_mem_append]
  constructor
  · rintro ⟨before, x, after, hl, hbefore, hx, hafter⟩
    exact ⟨before, x, after, hl, hx, hbefore, hafter⟩
  · rintro ⟨before, x, after, hl, hx, hbefore, hafter⟩
    exact ⟨before, x, after, hl, hbefore, hx, hafter⟩

/-- The table of a leaf with its column of that name, if the leaf is known and has one. -/
def Relation.holder (ctx : Context) (name : String) (leaf : Relation) : Option (Table × Column) :=
  (leaf.known ctx).bind fun known => (known.2.column name).map (known.2, ·)

theorem Scope.holders_ofFrom (ctx : Context) (items : List FromItem) (name : String) :
    (ofFrom ctx items).holders name =
      (FromItem.leavesAll items).filterMap (Relation.holder ctx name) := by
  rw [holders, tables_ofFrom, List.filterMap_filterMap]
  refine List.filterMap_congr fun leaf _ => ?_
  rw [Option.bind_map]
  rfl

theorem Relation.holder_eq_some_iff {ctx : Context} {name : String} {leaf : Relation} {t : Table}
    {c : Column} :
    leaf.holder ctx name = some (t, c) ↔
      ∃ called, leaf.known ctx = some (called, t) ∧ t.FirstColumn name c := by
  simp only [holder, Option.bind_eq_some_iff, Option.map_eq_some_iff, Prod.mk.injEq, Prod.exists,
    Table.column_eq_some_iff]
  constructor
  · rintro ⟨called, _, hknown, _, hcolumn, rfl, rfl⟩
    exact ⟨called, hknown, hcolumn⟩
  · rintro ⟨called, hknown, hcolumn⟩
    exact ⟨called, t, hknown, c, hcolumn, rfl, rfl⟩

theorem Relation.holder_eq_none_iff {ctx : Context} {name : String} {leaf : Relation} :
    leaf.holder ctx name = none ↔
      ∀ called t, leaf.known ctx = some (called, t) → ¬ t.HasColumn name := by
  simp only [holder, Option.bind_eq_none_iff, Option.map_eq_none_iff, Table.column_eq_none_iff,
    Prod.forall]

/-- An unqualified name needs a complete scope and a single holder. -/
theorem Scope.resolve_unqualified {scope : Scope} {name : String} {found : Table × Column} :
    scope.resolve ⟨none, name⟩ = some found ↔
      scope.complete = true ∧ scope.holders name = [found] := by
  simp only [resolve]
  split
  next hcomplete =>
    split
    next only heq => simp [hcomplete, heq]
    next _ hmany =>
      have hne : scope.holders name ≠ [found] := hmany found
      simp [hne]
  next hincomplete => simp [hincomplete]

/-! ## Qualified names -/

/-- The table bound to a name is that of the first known leaf that goes by the name. -/
theorem Scope.table?_ofFrom_eq_some_iff {ctx : Context} {items : List FromItem} {binding : String}
    {t : Table} :
    (ofFrom ctx items).table? binding = some t ↔
      ∃ before leaf after called, FromItem.leavesAll items = before ++ leaf :: after ∧
        leaf.known ctx = some (called, t) ∧ Text.lower called = Text.lower binding ∧
        ∀ other ∈ before, ∀ called' t', other.known ctx = some (called', t') →
          Text.lower called' ≠ Text.lower binding := by
  rw [table?, bindings_ofFrom, List.find?_map, List.find?_filterMap]
  -- Both searches have become one search among the leaves.
  have hgoes (leaf : Relation) :
      (leaf.known ctx).any ((fun entry : String × Table => Text.same entry.1 binding) ∘
        fun known => (Text.lower known.1, known.2)) = true ↔
      ∃ called t, leaf.known ctx = some (called, t) ∧ Text.lower called = Text.lower binding := by
    simp [Option.any_eq_true, Text.same, Text.lower_lower]
  simp only [Option.map_eq_some_iff, Option.bind_eq_some_iff, List.find?_eq_some_iff_append, hgoes,
    Bool.not_eq_true', ← Bool.not_eq_true, not_exists, not_and]
  constructor
  · rintro ⟨_, ⟨_, ⟨leaf, ⟨⟨called, t', hknown, hcalled⟩, before, after, hleaves, hbefore⟩, hentry⟩,
      rfl⟩, rfl⟩
    cases hknown.symm.trans hentry
    exact ⟨before, leaf, after, called, hleaves, hknown, hcalled, hbefore⟩
  · rintro ⟨before, leaf, after, called, hleaves, hknown, hcalled, hbefore⟩
    exact ⟨_, ⟨_, ⟨leaf, ⟨⟨called, t, hknown, hcalled⟩, before, after, hleaves, hbefore⟩, hknown⟩,
      rfl⟩, rfl⟩

/-- A qualified name is looked up in the table bound to its qualifier. -/
theorem Scope.resolve_qualified {scope : Scope} {qualifier name : String} {t : Table} {c : Column} :
    scope.resolve ⟨some qualifier, name⟩ = some (t, c) ↔
      scope.table? qualifier = some t ∧ t.FirstColumn name c := by
  simp only [resolve, Option.bind_eq_some_iff, Option.map_eq_some_iff, Prod.mk.injEq,
    Table.column_eq_some_iff]
  constructor
  · rintro ⟨_, htable, _, hcolumn, rfl, rfl⟩
    exact ⟨htable, hcolumn⟩
  · rintro ⟨htable, hcolumn⟩
    exact ⟨t, htable, c, hcolumn, rfl, rfl⟩

/-! ## References in a FROM list -/

/-- An unqualified name means a column of a table exactly when every leaf is a known table and a
single leaf, whose table it is, has a column of that name; a table joined with itself stands at two
leaves. A qualified name means a column of a table exactly when the table is that of the first known
leaf that goes by the qualifier and has such a column, whether the other leaves are known or not. -/
theorem Scope.resolve_means_column_of_leaf (ctx : Context) (items : List FromItem) (name : String)
    (t : Table) (c : Column) :
    ((ofFrom ctx items).resolve ⟨none, name⟩ = some (t, c) ↔
      (∀ leaf ∈ FromItem.leavesAll items, ∃ called t', leaf.known ctx = some (called, t')) ∧
      ∃ before leaf after called, FromItem.leavesAll items = before ++ leaf :: after ∧
        leaf.known ctx = some (called, t) ∧ t.FirstColumn name c ∧
        ∀ other ∈ before ++ after, ∀ called' t', other.known ctx = some (called', t') →
          ¬ t'.HasColumn name) ∧
    ∀ qualifier, (ofFrom ctx items).resolve ⟨some qualifier, name⟩ = some (t, c) ↔
      ∃ before leaf after called, FromItem.leavesAll items = before ++ leaf :: after ∧
        leaf.known ctx = some (called, t) ∧ Text.lower called = Text.lower qualifier ∧
        t.FirstColumn name c ∧
        ∀ other ∈ before, ∀ called' t', other.known ctx = some (called', t') →
          Text.lower called' ≠ Text.lower qualifier := by
  constructor
  · rw [resolve_unqualified, complete_ofFrom, holders_ofFrom, filterMap_eq_singleton_iff]
    simp only [Option.isSome_iff_exists, Prod.exists, Relation.holder_eq_some_iff,
      Relation.holder_eq_none_iff]
    refine and_congr_right fun _ => ?_
    constructor
    · rintro ⟨before, leaf, after, hleaves, ⟨called, hknown, hcolumn⟩, hothers⟩
      exact ⟨before, leaf, after, called, hleaves, hknown, hcolumn, hothers⟩
    · rintro ⟨before, leaf, after, called, hleaves, hknown, hcolumn, hothers⟩
      exact ⟨before, leaf, after, hleaves, ⟨called, hknown, hcolumn⟩, hothers⟩
  · intro qualifier
    rw [resolve_qualified, table?_ofFrom_eq_some_iff]
    constructor
    · rintro ⟨⟨before, leaf, after, called, hleaves, hknown, hcalled, hbefore⟩, hcolumn⟩
      exact ⟨before, leaf, after, called, hleaves, hknown, hcalled, hcolumn, hbefore⟩
    · rintro ⟨before, leaf, after, called, hleaves, hknown, hcalled, hcolumn, hbefore⟩
      exact ⟨⟨before, leaf, after, called, hleaves, hknown, hcalled, hbefore⟩, hcolumn⟩

end SqlAudit
