import SqlAudit.Rules.QueryShape

/-! # Operands of an expression

Walks over an expression are written form by form. What they do at a node other than looking at it
is the same for every form: they go through its operands in written order. Said in this way once, a
fact about a walk takes one induction on operands.
-/

namespace SqlAudit

namespace Expr

/-! ## Induction -/

/-- Operands are smaller, so recursion over them ends. -/
theorem sizeOf_lt_of_mem_operands {e operand : Expr} (hoperand : operand ∈ e.operands) :
    sizeOf operand < sizeOf e := by
  cases e with
  | column _ | literal _ | scalarQuery _ | existsQuery _ _ | other _ => cases hoperand
  | unary _ _ | nested _ | isNull _ _ | inQuery _ _ _ | cast _ _ =>
      rw [List.mem_singleton.mp hoperand]
      simp <;> omega
  | binary left _ right | like left right _ _ =>
      simp only [operands, List.mem_cons, List.not_mem_nil, or_false] at hoperand
      rcases hoperand with rfl | rfl <;> simp <;> omega
  | between first low high _ =>
      simp only [operands, List.mem_cons, List.not_mem_nil, or_false] at hoperand
      rcases hoperand with rfl | rfl | rfl <;> simp <;> omega
  | inList first items _ =>
      simp only [inList.sizeOf_spec]
      rcases List.mem_cons.mp hoperand with rfl | hitem
      · omega
      · have hsize := List.sizeOf_lt_of_mem hitem
        omega
  | call _ args _ _ _ =>
      have hsize : sizeOf operand < sizeOf args := List.sizeOf_lt_of_mem hoperand
      simp only [call.sizeOf_spec]
      omega
  | caseWhen first branches otherwise =>
      simp only [operands, branchOperands, List.mem_append, Option.mem_toList, List.mem_flatMap,
        List.mem_cons, List.not_mem_nil, or_false] at hoperand
      simp only [caseWhen.sizeOf_spec]
      rcases hoperand with (rfl | ⟨branch, hbranch, hpart⟩) | rfl
      · simp only [Option.some.sizeOf_spec]
        omega
      · have hsize := List.sizeOf_lt_of_mem hbranch
        obtain ⟨condition, result⟩ := branch
        simp only [CaseBranch.mk.sizeOf_spec] at hsize
        rcases hpart with rfl | rfl <;> omega
      · simp only [Option.some.sizeOf_spec]
        omega

/-- To show something of every expression, show that it holds of a node if it holds of the operands.
-/
theorem operandInduction {motive : Expr → Prop}
    (step : ∀ e, (∀ operand ∈ e.operands, motive operand) → motive e) (e : Expr) : motive e :=
  step e fun operand _ => operandInduction step operand
termination_by sizeOf e
decreasing_by exact sizeOf_lt_of_mem_operands (by assumption)

/-! ## Nodes -/

theorem preorderAll_eq (es : List Expr) : preorderAll es = es.flatMap preorder := by
  induction es with
  | nil => rfl
  | cons e rest ih => rw [preorderAll, ih, List.flatMap_cons]

theorem preorderOption_eq (e : Option Expr) : preorderOption e = e.toList.flatMap preorder := by
  cases e with
  | none => rfl
  | some e => rw [preorderOption, Option.toList_some, List.flatMap_singleton]

/-- A branch counts as its condition and its result. -/
theorem preorderBranches_eq (branches : List CaseBranch) :
    preorderBranches branches = (branchOperands branches).flatMap preorder := by
  induction branches with
  | nil => rfl
  | cons branch rest ih =>
      obtain ⟨condition, result⟩ := branch
      simp [preorderBranches, ih, branchOperands]

/-- The nodes of an expression are the expression and then those of its operands. -/
theorem preorder_eq (e : Expr) : e.preorder = e :: e.operands.flatMap preorder := by
  cases e <;>
    simp [preorder, operands, preorderAll_eq, preorderOption_eq, preorderBranches_eq]

end Expr

/-! ## Plain columns -/

/-- The column that the node itself is. -/
def Expr.ownColumns : Expr → List ColumnRef
  | .column ref => [ref]
  | _ => []

namespace Rules

theorem plainColumnsAll_eq (es : List Expr) : plainColumnsAll es = es.flatMap plainColumns := by
  induction es with
  | nil => rfl
  | cons e rest ih => rw [plainColumnsAll, ih, List.flatMap_cons]

theorem plainColumnsOption_eq (e : Option Expr) :
    plainColumnsOption e = e.toList.flatMap plainColumns := by
  cases e with
  | none => rfl
  | some e => rw [plainColumnsOption, Option.toList_some, List.flatMap_singleton]

theorem plainColumnsBranches_eq (branches : List CaseBranch) :
    plainColumnsBranches branches = (Expr.branchOperands branches).flatMap plainColumns := by
  induction branches with
  | nil => rfl
  | cons branch rest ih =>
      obtain ⟨condition, result⟩ := branch
      simp [plainColumnsBranches, ih, Expr.branchOperands]

/-- A node has its own column and the plain columns of its operands, except that an aggregate has
none. -/
theorem plainColumns_eq (e : Expr) :
    plainColumns e =
      if isAggregateCall e then [] else e.ownColumns ++ e.operands.flatMap plainColumns := by
  cases e with
  | call name args wildcard distinct windowed =>
      rw [plainColumns, plainColumnsAll_eq]
      rfl
  | _ =>
      simp [plainColumns, isAggregateCall, Expr.ownColumns, Expr.operands, plainColumnsAll_eq,
        plainColumnsOption_eq, plainColumnsBranches_eq]

end Rules

end SqlAudit
