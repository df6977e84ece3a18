import Mathlib.Data.List.Basic
import SqlAudit.Scope

/-! # Leaves of a FROM list

The leaves of a FROM list are the relations that are not parenthesised joins, read from left to
right through any depth of parentheses. Counting the relations of a FROM list and binding them to
names both come down to going through its leaves.
-/

namespace SqlAudit

mutual

/-- The leaves of a FROM entry. -/
def FromItem.leaves : FromItem → List Relation
  | ⟨relation, joins⟩ => relation.leaves ++ Join.leavesAll joins

/-- The leaves of joined relations. -/
def Join.leavesAll : List Join → List Relation
  | [] => []
  | ⟨relation, _⟩ :: rest => relation.leaves ++ Join.leavesAll rest

/-- The relation itself, or the leaves inside a parenthesised join. -/
def Relation.leaves : Relation → List Relation
  | .table name aliasName => [.table name aliasName]
  | .derived query aliasName => [.derived query aliasName]
  | .nested item => item.leaves
  | .function name aliasName => [.function name aliasName]

end

/-- The leaves of a FROM list. -/
def FromItem.leavesAll (items : List FromItem) : List Relation :=
  items.flatMap FromItem.leaves

theorem Join.leavesAll_eq (joins : List Join) :
    Join.leavesAll joins = joins.flatMap fun join => join.relation.leaves := by
  induction joins with
  | nil => rfl
  | cons join rest ih =>
      obtain ⟨relation, on⟩ := join
      rw [Join.leavesAll, ih, List.flatMap_cons]

/-! ## Counting -/

mutual

theorem FromItem.tableCount_eq : ∀ item : FromItem, item.tableCount = item.leaves.length
  | ⟨relation, joins⟩ => by
      rw [FromItem.tableCount, FromItem.leaves, List.length_append, relation.tableCount_eq,
        Join.tableCountAll_eq joins]

theorem Join.tableCountAll_eq :
    ∀ joins : List Join, Join.tableCountAll joins = (Join.leavesAll joins).length
  | [] => rfl
  | ⟨relation, _⟩ :: rest => by
      rw [Join.tableCountAll, Join.leavesAll, List.length_append, relation.tableCount_eq,
        Join.tableCountAll_eq rest]

/-- Counting relations is counting leaves. -/
theorem Relation.tableCount_eq : ∀ relation : Relation, relation.tableCount = relation.leaves.length
  | .table _ _ => rfl
  | .derived _ _ => rfl
  | .nested item => by rw [Relation.tableCount, Relation.leaves, item.tableCount_eq]
  | .function _ _ => rfl

end

/-- A block reads as many relations as its FROM list has leaves. -/
theorem Select.tableCount_eq (block : Select) :
    block.tableCount = (FromItem.leavesAll block.fromItems).length := by
  rw [Select.tableCount, FromItem.leavesAll]
  induction block.fromItems with
  | nil => rfl
  | cons item rest ih =>
      rw [List.map_cons, total_cons, ih, List.flatMap_cons, List.length_append, item.tableCount_eq]

/-! ## Binding -/

/-- Binds a leaf: a plain table under its alias or name, while any other leaf leaves the scope
incomplete. -/
def Scope.bindLeaf (ctx : Context) (scope : Scope) : Relation → Scope
  | .table name aliasName => bindTable ctx scope name aliasName
  | _ => { scope with complete := false }

mutual

theorem Scope.bindItem_eq (ctx : Context) :
    ∀ (scope : Scope) (item : FromItem),
      bindItem ctx scope item = item.leaves.foldl (bindLeaf ctx) scope
  | scope, ⟨relation, joins⟩ => by
      rw [bindItem, FromItem.leaves, List.foldl_append, bindRelation_eq ctx scope relation,
        bindJoins_eq ctx _ joins]

theorem Scope.bindJoins_eq (ctx : Context) :
    ∀ (scope : Scope) (joins : List Join),
      bindJoins ctx scope joins = (Join.leavesAll joins).foldl (bindLeaf ctx) scope
  | _, [] => rfl
  | scope, ⟨relation, _⟩ :: rest => by
      rw [bindJoins, Join.leavesAll, List.foldl_append, bindRelation_eq ctx scope relation,
        bindJoins_eq ctx _ rest]

/-- Binding a relation is binding its leaves one after the other. -/
theorem Scope.bindRelation_eq (ctx : Context) :
    ∀ (scope : Scope) (relation : Relation),
      bindRelation ctx scope relation = relation.leaves.foldl (bindLeaf ctx) scope
  | _, .table _ _ => rfl
  | _, .derived _ _ => rfl
  | scope, .nested item => by rw [bindRelation, Relation.leaves, bindItem_eq ctx scope item]
  | _, .function _ _ => rfl

end

/-- The scope of a FROM list binds its leaves one after the other. -/
theorem Scope.ofFrom_eq (ctx : Context) (items : List FromItem) :
    Scope.ofFrom ctx items = (FromItem.leavesAll items).foldl (bindLeaf ctx) Scope.empty := by
  rw [Scope.ofFrom, FromItem.leavesAll, List.foldl_flatMap]
  congr 1
  funext scope item
  exact bindItem_eq ctx scope item

/-- A scope depends on the context only through the tables found for the leaves. -/
theorem Scope.ofFrom_congr_of_leaves {ctx ctx' : Context} {items : List FromItem}
    (htable : ∀ name aliasName, .table name aliasName ∈ FromItem.leavesAll items →
      ctx.table? name = ctx'.table? name) :
    Scope.ofFrom ctx items = Scope.ofFrom ctx' items := by
  rw [Scope.ofFrom_eq, Scope.ofFrom_eq]
  refine List.foldl_ext _ _ _ fun scope leaf hleaf => ?_
  cases leaf with
  | table name aliasName =>
      rw [bindLeaf, bindLeaf, bindTable, bindTable, htable name aliasName hleaf]
  | _ => rfl

/-- A scope depends on a context only through the tables it finds. -/
theorem Scope.ofFrom_congr {ctx ctx' : Context} (htable : ctx.table? = ctx'.table?) :
    Scope.ofFrom ctx = Scope.ofFrom ctx' :=
  funext fun _ => Scope.ofFrom_congr_of_leaves fun name _ _ => congrFun htable name

end SqlAudit
