import SqlAudit.Proofs.FindingCounts
import SqlAudit.Proofs.Operands

/-! # Cosmetic rewritings

A rewriting is cosmetic if it changes expressions at most by leaving out parentheses and by
exchanging the sides of comparisons, and identifiers at most in the case of letters. It does not
change how many findings a built-in rule has. Texts quoted in the details of findings do change, as
they show the statement as it is written; the remarks on implicit conversions quote no expression,
so they stay, if not in their order.

The rules see through parentheses by different means: columns and literals are looked for inside
them, and a walk over the nodes of an expression comes across the parenthesised expression right
after its parentheses. So the nodes that count are those other than parentheses, and a cosmetic
rewriting takes them one by one to those of the rewritten expression. As sides may be exchanged,
they can come there in another order.
-/

namespace SqlAudit

/-- The expression is parenthesised. -/
def Expr.isNested : Expr → Bool
  | .nested _ => true
  | _ => false

/-- The comparison that says the same with exchanged sides. -/
def BinaryOp.mirror : BinaryOp → BinaryOp
  | .lt => .gt
  | .ltEq => .gtEq
  | .gt => .lt
  | .gtEq => .ltEq
  | op => op

/-- A comparison with its sides exchanged; any other expression stays. -/
def Expr.mirror : Expr → Expr
  | .binary left op right =>
    if op.isComparison then .binary right op.mirror left else .binary left op right
  | e => e

/-- The rewriting leaves out parentheses or keeps them, exchanges the sides of comparisons or keeps
them, changes the case of letters in identifiers and leaves all else. -/
structure Rewriting.Cosmetic (r : Rewriting) : Prop where
  plain : ∀ e, e.isNested = false → r.expr e = e ∨ r.expr e = e.mirror
  nested : ∀ inner, r.expr (.nested inner) = .nested inner ∨ r.expr (.nested inner) = inner
  letters : r.KeepsLetters

/-! ## Comparisons with exchanged sides -/

/-- Turning a comparison round gives a comparison. -/
theorem BinaryOp.isComparison_mirror (op : BinaryOp) :
    op.mirror.isComparison = op.isComparison := by
  cases op <;> rfl

theorem BinaryOp.isArithmetic_mirror (op : BinaryOp) :
    op.mirror.isArithmetic = op.isArithmetic := by
  cases op <;> rfl

namespace Expr

/-- Mirroring leaves a node alone or exchanges its two operands. -/
theorem mirror_cases (e : Expr) :
    e.mirror = e ∨ ∃ left op right, e = .binary left op right ∧
      e.mirror = .binary right op.mirror left := by
  cases e with
  | binary left op right =>
      rw [mirror]
      split
      next => exact Or.inr ⟨left, op, right, rfl, rfl⟩
      next => exact Or.inl rfl
  | _ => exact Or.inl rfl

/-- What is the same for the two ways to write a comparison is the same for an expression and its
mirror. -/
theorem apply_mirror {α : Type} (f : Expr → α)
    (hf : ∀ left op right, f (.binary right (BinaryOp.mirror op) left) = f (.binary left op right))
    (e : Expr) : f e.mirror = f e := by
  rcases e.mirror_cases with heq | ⟨left, op, right, rfl, heq⟩
  · rw [heq]
  · rw [heq, hf]

theorem nodes_mirror (e : Expr) : e.mirror.nodes.Perm e.nodes := by
  rcases e.mirror_cases with heq | ⟨left, op, right, rfl, heq⟩
  · rw [heq]
  · rw [heq]
    exact List.perm_append_comm

theorem operands_mirror (e : Expr) : e.mirror.operands.Perm e.operands := by
  rcases e.mirror_cases with heq | ⟨left, op, right, rfl, heq⟩
  · rw [heq]
  · rw [heq]
    exact List.Perm.swap left right []

end Expr

namespace Expr

/-! ## Parentheses -/

/-- To show something of every expression, show that it passes through parentheses and that it holds
of what is not parenthesised. -/
theorem parenInduction {motive : Expr → Prop}
    (nested : ∀ inner, motive inner → motive (.nested inner))
    (plain : ∀ e, e.isNested = false → motive e) (e : Expr) : motive e := by
  fun_induction Expr.unnest e with
  | case1 inner ih => exact nested inner ih
  | case2 e hnested =>
      refine plain e ?_
      cases e with
      | nested inner => exact (hnested inner rfl).elim
      | _ => rfl

theorem isNested_unnest (e : Expr) : e.unnest.isNested = false := by
  induction e using parenInduction with
  | nested inner ih => exact ih
  | plain e hplain =>
      cases e with
      | nested inner => cases hplain
      | _ => rfl

/-- A literal in parentheses is read as the literal. -/
theorem asLiteral_eq_some_iff {e : Expr} {value : Literal} :
    e.asLiteral = some value ↔ e.unnest = .literal value := by
  induction e using parenInduction with
  | nested inner ih => exact ih
  | plain e hplain =>
      cases e with
      | nested inner => cases hplain
      | _ => simp [asLiteral, unnest]

/-- The nodes of an expression that are not parentheses, each before its operands. -/
def plainNodes (e : Expr) : List Expr :=
  e.preorder.filter (!·.isNested)

/-- Parentheses themselves are not listed. -/
theorem not_isNested_of_mem_plainNodes {e node : Expr} (hnode : node ∈ e.plainNodes) :
    node.isNested = false := by
  simpa using (List.mem_filter.mp hnode).2

theorem plainNodes_nested (inner : Expr) : plainNodes (.nested inner) = inner.plainNodes :=
  rfl

/-- A node without parentheses comes before the nodes of its operands. -/
theorem plainNodes_of_not_isNested {e : Expr} (hplain : e.isNested = false) :
    e.plainNodes = e :: e.operands.flatMap plainNodes := by
  rw [plainNodes, preorder_eq, List.filter_cons_of_pos (by rw [hplain]; rfl), List.filter_flatMap]
  rfl

/-! ## Walks that pass over parentheses -/

/-- A test that parentheses fail can leave them out. -/
theorem any_plainNodes {p : Expr → Bool} (hp : ∀ inner, p (.nested inner) = false) (e : Expr) :
    e.plainNodes.any p = e.preorder.any p := by
  rw [plainNodes, List.any_filter]
  refine congrArg e.preorder.any (funext fun node => ?_)
  cases node with
  | nested inner => exact (hp inner).symm
  | _ => rfl

/-- A search that finds nothing at parentheses can leave them out. -/
theorem filterMap_plainNodes {α : Type} {f : Expr → Option α}
    (hf : ∀ inner, f (.nested inner) = none) (e : Expr) :
    e.plainNodes.filterMap f = e.preorder.filterMap f := by
  rw [plainNodes, List.filterMap_filter]
  refine congrArg (List.filterMap · e.preorder) (funext fun node => ?_)
  cases node with
  | nested inner => exact (hf inner).symm
  | _ => rfl

theorem flatMap_plainNodes {α : Type} {f : Expr → List α} (hf : ∀ inner, f (.nested inner) = [])
    (e : Expr) : e.plainNodes.flatMap f = e.preorder.flatMap f := by
  rw [plainNodes]
  induction e.preorder with
  | nil => rfl
  | cons node rest ih =>
      rw [List.flatMap_cons, ← ih]
      cases node with
      | nested inner =>
          rw [hf, List.nil_append]
          rfl
      | _ => rfl

/-- Where there is a column in parentheses, there is the column itself. -/
theorem any_asColumn_preorder (e : Expr) :
    e.preorder.any (·.asColumn.isSome) = e.preorder.any (!·.ownColumns.isEmpty) := by
  induction e using operandInduction with
  | step e ih =>
      have hoperands : (e.operands.flatMap preorder).any (·.asColumn.isSome) =
          (e.operands.flatMap preorder).any (!·.ownColumns.isEmpty) := by
        rw [List.any_flatMap, List.any_flatMap]
        rw [Bool.eq_iff_iff, List.any_eq_true, List.any_eq_true]
        exact exists_congr fun operand =>
          and_congr_right fun hoperand => by rw [ih operand hoperand]
      rw [preorder_eq, List.any_cons, List.any_cons, ← hoperands]
      cases e with
      | nested inner =>
          -- The inner expression comes right after its parentheses, so a column is found there.
          rw [operands, List.flatMap_singleton, preorder_eq inner, List.any_cons, asColumn]
          cases inner.asColumn <;> rfl
      | _ => rfl

end Expr

/-- The node is an arithmetic operation. -/
def Expr.isArithmetic : Expr → Bool
  | .binary _ op _ => op.isArithmetic
  | _ => false

/-- Whether a side counts does not depend on which column comes first. -/
theorem Rules.isSome_arithmeticColumn (side : Expr) :
    (arithmeticColumn side).isSome =
      (side.unnest.isArithmetic && side.unnest.preorder.any (·.asColumn.isSome)) := by
  rw [arithmeticColumn]
  cases side.unnest with
  | binary left op right =>
      rw [Expr.isArithmetic, ← List.isSome_findSome?]
      dsimp only
      cases op.isArithmetic <;> rfl
  | _ => rfl

/-- An expression is not a column and a literal at once, so it does not matter which side is asked
first. -/
theorem Rules.comparedPair_comm (left right : Expr) :
    comparedPair right left = comparedPair left right := by
  have hexclusive (e : Expr) : e.asColumn = none ∨ e.asLiteral = none := by
    induction e using Expr.parenInduction with
    | nested inner ih => exact ih
    | plain e hplain =>
        cases e with
        | nested inner => cases hplain
        | column ref => exact Or.inr rfl
        | _ => exact Or.inl rfl
  have hleft := hexclusive left
  have hright := hexclusive right
  rw [comparedPair, comparedPair]
  -- Only two sides that are a column and a literal each would give two different pairs.
  revert hleft hright
  cases left.asColumn <;> cases left.asLiteral <;> cases right.asColumn <;>
    cases right.asLiteral <;> simp

/-! ## Rewritten expressions -/

section Cosmetic

variable {r : Rewriting}

theorem Expr.isNested_rewriteParts (e : Expr) : (e.rewriteParts r).isNested = e.isNested := by
  cases e <;> rfl

/-- Rewriting the parts of a node is rewriting its operands. -/
theorem Expr.operands_rewriteParts (e : Expr) :
    (e.rewriteParts r).operands = e.operands.map (Expr.rewrite r) := by
  cases e with
  | caseWhen operand branches otherwise =>
      have hbranches : branchOperands (branches.map (CaseBranch.rewrite r)) =
          (branchOperands branches).map (Expr.rewrite r) := by
        simp only [branchOperands, List.flatMap_map, List.map_flatMap]
        rfl
      rw [rewriteParts, operands, operands, hbranches, Option.toList_map, Option.toList_map,
        List.map_append, List.map_append]
  | _ => rfl

variable (hr : r.Cosmetic)

include hr

/-- At one node, a cosmetic change is nothing, a mirroring or the loss of parentheses. -/
theorem Rewriting.Cosmetic.expr_cases (e : Expr) :
    r.expr e = e ∨ r.expr e = e.mirror ∨ ∃ inner, e = .nested inner ∧ r.expr e = inner := by
  cases hnested : e.isNested with
  | true =>
      cases e with
      | nested inner => exact (hr.nested inner).imp_right fun heq => Or.inr ⟨inner, rfl, heq⟩
      | _ => cases hnested
  | false => exact (hr.plain e hnested).imp_right Or.inl

theorem Rewriting.Cosmetic.permutesNodes : r.PermutesNodes := by
  intro e
  rcases hr.expr_cases e with heq | heq | ⟨inner, rfl, heq⟩
  · rw [heq]
  · rw [heq]
    exact e.nodes_mirror
  · rw [heq, Expr.nodes]

theorem Rewriting.Cosmetic.keepsLiterals : r.KeepsLiterals := by
  intro e
  rcases hr.expr_cases e with heq | heq | ⟨inner, rfl, heq⟩
  · rw [heq]
  · rw [heq, Expr.apply_mirror Expr.asLiteral fun _ _ _ => rfl]
  · rw [heq, Expr.asLiteral]

namespace Expr

/-- What ignores parentheses ignores whether they have been left out. -/
theorem apply_rewrite_nested {α : Type} (f : Expr → α) (hf : ∀ inner, f (.nested inner) = f inner)
    (inner : Expr) : f ((Expr.nested inner).rewrite r) = f (inner.rewrite r) := by
  rw [rewrite]
  rcases hr.nested (inner.rewrite r) with heq | heq
  · rw [heq, hf]
  · rw [heq]

/-- A node without parentheses is rewritten in its parts and mirrored at most. -/
theorem rewrite_cases {e : Expr} (hplain : e.isNested = false) :
    e.rewrite r = e.rewriteParts r ∨ e.rewrite r = (e.rewriteParts r).mirror := by
  rw [rewrite_eq]
  exact hr.plain _ (e.isNested_rewriteParts.trans hplain)

/-- What ignores the direction of comparisons can be read off the expression with rewritten parts.
-/
theorem apply_rewrite {α : Type} (f : Expr → α)
    (hf : ∀ left op right, f (.binary right (BinaryOp.mirror op) left) = f (.binary left op right))
    {e : Expr} (hplain : e.isNested = false) : f (e.rewrite r) = f (e.rewriteParts r) := by
  rcases rewrite_cases hr hplain with heq | heq
  · rw [heq]
  · rw [heq, apply_mirror f hf]

theorem isNested_rewrite {e : Expr} (hplain : e.isNested = false) :
    (e.rewrite r).isNested = false := by
  rw [apply_rewrite hr isNested (fun _ _ _ => rfl) hplain, isNested_rewriteParts, hplain]

/-- The operands of the rewritten node, up to their order, are the rewritten operands. -/
theorem operands_rewrite {e : Expr} (hplain : e.isNested = false) :
    (e.rewrite r).operands.Perm (e.operands.map (Expr.rewrite r)) := by
  rw [← operands_rewriteParts]
  rcases rewrite_cases hr hplain with heq | heq
  · rw [heq]
  · rw [heq]
    exact operands_mirror _

/-- A cosmetic rewriting takes the nodes other than parentheses to those of the rewritten
expression. -/
theorem plainNodes_rewrite (e : Expr) :
    (e.rewrite r).plainNodes.Perm (e.plainNodes.map (Expr.rewrite r)) := by
  induction e using operandInduction with
  | step e ih =>
      cases hnested : e.isNested with
      | true =>
          cases e with
          | nested inner =>
              -- Whether the parentheses stay or go, only what stands inside them is left.
              rw [plainNodes_nested, apply_rewrite_nested hr plainNodes plainNodes_nested]
              exact ih inner List.mem_cons_self
          | _ => cases hnested
      | false =>
          rw [plainNodes_of_not_isNested hnested,
            plainNodes_of_not_isNested (isNested_rewrite hr hnested), List.map_cons,
            List.map_flatMap]
          refine List.Perm.cons _ (((operands_rewrite hr hnested).flatMap_right _).trans ?_)
          rw [List.flatMap_map]
          exact List.Perm.flatMap_left _ ih

/-- A test of nodes that is blind to parentheses has the same answer for the rewritten expression.
-/
theorem any_preorder_rewrite {p : Expr → Bool} (hnested : ∀ inner, p (.nested inner) = false)
    (hplain : ∀ node, node.isNested = false → p (node.rewrite r) = p node) (e : Expr) :
    (e.rewrite r).preorder.any p = e.preorder.any p := by
  rw [← any_plainNodes hnested, ← any_plainNodes hnested, (plainNodes_rewrite hr e).any_eq,
    List.any_map, Bool.eq_iff_iff, List.any_eq_true, List.any_eq_true]
  refine exists_congr fun node => and_congr_right fun hnode => ?_
  rw [Function.comp_apply, hplain node (not_isNested_of_mem_plainNodes hnode)]

/-- As many nodes are found as before, if each one is found where it was. -/
theorem length_filterMap_preorder_rewrite {α : Type} {f : Expr → Option α}
    (hnested : ∀ inner, f (.nested inner) = none)
    (hplain : ∀ node, node.isNested = false → (f (node.rewrite r)).isSome = (f node).isSome)
    (e : Expr) :
    ((e.rewrite r).preorder.filterMap f).length = (e.preorder.filterMap f).length := by
  rw [← filterMap_plainNodes hnested, ← filterMap_plainNodes hnested,
    ((plainNodes_rewrite hr e).filterMap f).length_eq]
  exact length_filterMap_map fun node hnode => hplain node (not_isNested_of_mem_plainNodes hnode)

/-- The same is found as before, up to order, if each node gives the same. -/
theorem filterMap_preorder_rewrite {α : Type} {f : Expr → Option α}
    (hnested : ∀ inner, f (.nested inner) = none)
    (hplain : ∀ node, node.isNested = false → f (node.rewrite r) = f node) (e : Expr) :
    ((e.rewrite r).preorder.filterMap f).Perm (e.preorder.filterMap f) := by
  rw [← filterMap_plainNodes hnested, ← filterMap_plainNodes hnested]
  refine ((plainNodes_rewrite hr e).filterMap f).trans (List.Perm.of_eq ?_)
  rw [List.filterMap_map]
  exact List.filterMap_congr fun node hnode => hplain node (not_isNested_of_mem_plainNodes hnode)

/-- As much is found as before, if each node gives as much. -/
theorem length_flatMap_preorder_rewrite {α : Type} {f : Expr → List α}
    (hnested : ∀ inner, f (.nested inner) = [])
    (hplain : ∀ node, node.isNested = false → (f (node.rewrite r)).length = (f node).length)
    (e : Expr) :
    ((e.rewrite r).preorder.flatMap f).length = (e.preorder.flatMap f).length := by
  rw [← flatMap_plainNodes hnested, ← flatMap_plainNodes hnested,
    ((plainNodes_rewrite hr e).flatMap_right f).length_eq]
  exact length_flatMap_map fun node hnode => hplain node (not_isNested_of_mem_plainNodes hnode)

theorem asColumn_rewrite (e : Expr) :
    (e.rewrite r).asColumn = e.asColumn.map (ColumnRef.rewrite r) := by
  induction e using parenInduction with
  | nested inner ih => rw [apply_rewrite_nested hr asColumn fun _ => rfl, ih, asColumn]
  | plain e hplain =>
      rw [apply_rewrite hr asColumn (fun _ _ _ => rfl) hplain]
      cases e with
      | nested inner => cases hplain
      | _ => rfl

/-- It does not matter whether parentheses are dropped before or after. -/
theorem unnest_rewrite (e : Expr) : (e.rewrite r).unnest = e.unnest.rewrite r := by
  induction e using parenInduction with
  | nested inner ih => rw [apply_rewrite_nested hr unnest fun _ => rfl, ih, unnest]
  | plain e hplain =>
      have hsame {e : Expr} (he : e.isNested = false) : e.unnest = e := by
        cases e with
        | nested inner => cases he
        | _ => rfl
      rw [hsame hplain, hsame (isNested_rewrite hr hplain)]

theorem isNullLiteral_rewrite (e : Expr) : (e.rewrite r).isNullLiteral = e.isNullLiteral := by
  rw [isNullLiteral, isNullLiteral, e.asLiteral_rewrite hr.keepsLiterals]

/-- A node keeps its columns, with their names rewritten. -/
theorem ownColumns_rewrite {node : Expr} (hplain : node.isNested = false) :
    (node.rewrite r).ownColumns = node.ownColumns.map (ColumnRef.rewrite r) := by
  rw [apply_rewrite hr ownColumns (fun _ _ _ => rfl) hplain]
  cases node <;> rfl

theorem any_asColumn_rewrite (e : Expr) :
    (e.rewrite r).preorder.any (·.asColumn.isSome) = e.preorder.any (·.asColumn.isSome) := by
  rw [any_asColumn_preorder, any_asColumn_preorder]
  refine any_preorder_rewrite hr (fun _ => rfl) (fun node hplain => ?_) e
  rw [ownColumns_rewrite hr hplain, List.isEmpty_map]

end Expr

/-! ## What rules see in expressions -/

namespace Rules

/-- Aggregates are known by their name in any case. -/
theorem isAggregateCall_rewrite {node : Expr} (hplain : node.isNested = false) :
    isAggregateCall (node.rewrite r) = isAggregateCall node := by
  rw [Expr.apply_rewrite hr isAggregateCall (fun _ _ _ => rfl) hplain]
  cases node with
  | call name args wildcard distinct windowed =>
      simp only [Expr.rewriteParts, isAggregateCall, hr.letters.same_left]
  | _ => rfl

theorem containsAggregate_rewrite (e : Expr) :
    containsAggregate (e.rewrite r) = containsAggregate e :=
  Expr.any_preorder_rewrite hr (fun _ => rfl) (fun _ hplain => isAggregateCall_rewrite hr hplain) e

/-- The columns outside aggregates stay, up to their order. -/
theorem plainColumns_rewrite (e : Expr) :
    (plainColumns (e.rewrite r)).Perm ((plainColumns e).map (ColumnRef.rewrite r)) := by
  induction e using Expr.operandInduction with
  | step e ih =>
      cases hnested : e.isNested with
      | true =>
          cases e with
          | nested inner =>
              rw [Expr.apply_rewrite_nested hr plainColumns fun _ => rfl, plainColumns]
              exact ih inner List.mem_cons_self
          | _ => cases hnested
      | false =>
          rw [plainColumns_eq, plainColumns_eq e, isAggregateCall_rewrite hr hnested,
            Expr.ownColumns_rewrite hr hnested]
          split
          next => exact List.Perm.nil
          next =>
            rw [List.map_append, List.map_flatMap]
            refine List.Perm.append_left _
              (((Expr.operands_rewrite hr hnested).flatMap_right _).trans ?_)
            rw [List.flatMap_map]
            exact List.Perm.flatMap_left _ ih

theorem aggregateAliases_rewrite (block : Select) :
    aggregateAliases (block.rewrite r) = (aggregateAliases block).map r.ident := by
  rw [aggregateAliases, aggregateAliases, Select.items_rewrite, List.filterMap_map,
    List.map_filterMap]
  congr 1
  funext item
  rcases item with _ | _ | ⟨value, _ | aliasName⟩
  · rfl
  · rfl
  · rfl
  · rw [Function.comp_apply, SelectItem.rewrite, Option.map_some]
    dsimp only
    rw [containsAggregate_rewrite hr]
    split <;> rfl

theorem isAggregateAlias_rewrite (aliases : List String) (ref : ColumnRef) :
    isAggregateAlias (aliases.map r.ident) (ref.rewrite r) = isAggregateAlias aliases ref := by
  simp only [isAggregateAlias, ColumnRef.rewrite, Option.isNone_map, List.any_map,
    Function.comp_def, hr.letters.same_left, hr.letters.same_right]

/-- A block is reported for its `HAVING` if it was before. -/
theorem isSome_havingToWhereOf_rewrite (block : Select) :
    (havingToWhereOf (block.rewrite r)).isSome = (havingToWhereOf block).isSome := by
  rw [isSome_havingToWhereOf, isSome_havingToWhereOf, Select.having_rewrite,
    aggregateAliases_rewrite hr]
  cases block.having with
  | none => rfl
  | some having =>
      rw [Option.map_some, Option.any_some, Option.any_some,
        (plainColumns_rewrite hr having).any_eq, List.any_map]
      simp only [Function.comp_def, isAggregateAlias_rewrite hr]

theorem isSome_scanShapeOf_rewrite {node : Expr} (hplain : node.isNested = false) :
    (scanShapeOf (node.rewrite r)).isSome = (scanShapeOf node).isSome := by
  have hmirror (left : Expr) (op : BinaryOp) (right : Expr) :
      (scanShapeOf (.binary right op.mirror left)).isSome =
        (scanShapeOf (.binary left op right)).isSome := by
    cases op <;> rfl
  rw [Expr.apply_rewrite hr (fun e => (scanShapeOf e).isSome) hmirror hplain]
  cases node with
  | binary left op right => cases op <;> rfl
  | inList operand items negated => cases negated <;> rfl
  | inQuery operand query negated => cases negated <;> rfl
  | existsQuery query negated => cases negated <;> rfl
  | like operand pattern negated caseInsensitive =>
      rw [Expr.rewriteParts, scanShapeOf, scanShapeOf, pattern.asLiteral_rewrite hr.keepsLiterals]
  | _ => rfl

theorem isSome_scanShape_rewrite (filter : Expr) :
    (scanShape (filter.rewrite r)).isSome = (scanShape filter).isSome := by
  rw [scanShape, scanShape, List.isSome_findSome?, List.isSome_findSome?]
  exact Expr.any_preorder_rewrite hr (fun _ => rfl)
    (fun _ hplain => isSome_scanShapeOf_rewrite hr hplain) filter

theorem length_fullScanOf_rewrite (ctx : Context) (block : Select) :
    (fullScanOf ctx (block.rewrite r)).length = (fullScanOf ctx block).length := by
  rw [length_fullScanOf, length_fullScanOf, Select.filter_rewrite,
    scanCandidates_rewrite hr.letters]
  cases block.filter with
  | none => rfl
  | some filter => simp only [Option.map_some, isSome_scanShape_rewrite hr]

theorem isSome_nullComparisonOf_rewrite {node : Expr} (hplain : node.isNested = false) :
    (nullComparisonOf (node.rewrite r)).isSome = (nullComparisonOf node).isSome := by
  have hmirror (left : Expr) (op : BinaryOp) (right : Expr) :
      (nullComparisonOf (.binary right op.mirror left)).isSome =
        (nullComparisonOf (.binary left op right)).isSome := by
    have htest : nullTest op.mirror = nullTest op := by cases op <;> rfl
    rw [isSome_nullComparisonOf, isSome_nullComparisonOf, htest, Bool.or_comm]
  rw [Expr.apply_rewrite hr (fun e => (nullComparisonOf e).isSome) hmirror hplain]
  cases node with
  | binary left op right =>
      rw [Expr.rewriteParts, isSome_nullComparisonOf, isSome_nullComparisonOf,
        left.isNullLiteral_rewrite hr, right.isNullLiteral_rewrite hr]
  | _ => rfl

/-- The same column is compared with the same literal. -/
theorem comparedPair_rewrite (left right : Expr) :
    comparedPair (left.rewrite r) (right.rewrite r) =
      (comparedPair left right).map (Prod.map (ColumnRef.rewrite r) id) := by
  rw [comparedPair, comparedPair, left.asColumn_rewrite hr, right.asColumn_rewrite hr,
    left.asLiteral_rewrite hr.keepsLiterals, right.asLiteral_rewrite hr.keepsLiterals]
  cases left.asColumn <;> cases right.asLiteral <;> cases right.asColumn <;>
    cases left.asLiteral <;> rfl

/-- The remark does not depend on how a column name is written. -/
theorem conversionRemark_rewrite (scope : Scope) (ref : ColumnRef) (value : Literal) :
    conversionRemark scope (ref.rewrite r) value = conversionRemark scope ref value := by
  rw [conversionRemark, conversionRemark, scope.resolve_rewrite hr.letters]

/-- A remark on types quotes the catalog and a literal, so it stays as it is. -/
theorem conversionOf_rewrite (scope : Scope) {node : Expr} (hplain : node.isNested = false) :
    conversionOf scope (node.rewrite r) = conversionOf scope node := by
  have hmirror (left : Expr) (op : BinaryOp) (right : Expr) :
      conversionOf scope (.binary right op.mirror left) =
        conversionOf scope (.binary left op right) := by
    rw [conversionOf, conversionOf, op.isComparison_mirror, comparedPair_comm]
  rw [Expr.apply_rewrite hr (conversionOf scope) hmirror hplain]
  cases node with
  | binary left op right =>
      rw [Expr.rewriteParts, conversionOf, conversionOf, comparedPair_rewrite hr, Option.bind_map]
      simp only [Function.comp_def, Prod.map_fst, Prod.map_snd, id_eq, conversionRemark_rewrite hr]
  | inList operand items negated =>
      have hliterals : Expr.asLiteral ∘ Expr.rewrite r = Expr.asLiteral :=
        funext (Expr.asLiteral_rewrite hr.keepsLiterals)
      have hremark (ref : ColumnRef) :
          conversionRemark scope (ref.rewrite r) = conversionRemark scope ref :=
        funext (conversionRemark_rewrite hr scope ref)
      rw [Expr.rewriteParts, conversionOf, conversionOf, operand.asColumn_rewrite hr,
        List.filterMap_map, hliterals, Option.bind_map]
      simp only [Function.comp_def, hremark]
  | _ => rfl

theorem isSome_arithmeticColumn_rewrite (side : Expr) :
    (arithmeticColumn (side.rewrite r)).isSome = (arithmeticColumn side).isSome := by
  have harithmetic : (side.unnest.rewrite r).isArithmetic = side.unnest.isArithmetic := by
    rw [Expr.apply_rewrite hr Expr.isArithmetic (fun _ op _ => op.isArithmetic_mirror)
      side.isNested_unnest]
    cases side.unnest <;> rfl
  rw [isSome_arithmeticColumn, isSome_arithmeticColumn, side.unnest_rewrite hr, harithmetic,
    Expr.any_asColumn_rewrite hr]

theorem length_fieldArithmeticOf_rewrite {node : Expr} (hplain : node.isNested = false) :
    (fieldArithmeticOf (node.rewrite r)).length = (fieldArithmeticOf node).length := by
  have hmirror (left : Expr) (op : BinaryOp) (right : Expr) :
      (fieldArithmeticOf (.binary right op.mirror left)).length =
        (fieldArithmeticOf (.binary left op right)).length := by
    rw [length_fieldArithmeticOf, length_fieldArithmeticOf, op.isComparison_mirror,
      (List.Perm.swap left right []).countP_eq]
  rw [Expr.apply_rewrite hr (fun e => (fieldArithmeticOf e).length) hmirror hplain]
  cases node with
  | binary left op right =>
      rw [Expr.rewriteParts, length_fieldArithmeticOf, length_fieldArithmeticOf]
      simp only [List.countP_cons, List.countP_nil, isSome_arithmeticColumn_rewrite hr]
  | _ => rfl

end Rules

/-! ## Numbers of findings -/

namespace Rewriting.Cosmetic

theorem fullScan : r.KeepsCount Rules.fullScan := by
  intro s catalog settings
  rw [Rules.fullScan, Rule.count_ofDetails, Rule.count_ofDetails,
    ((s.selects_rewrite hr.permutesNodes).flatMap_right _).length_eq]
  exact length_flatMap_map fun block _ => Rules.length_fullScanOf_rewrite hr _ block

theorem havingToWhere : r.KeepsCount Rules.havingToWhere := by
  intro s catalog settings
  rw [Rules.havingToWhere, Rule.count_ofDetails, Rule.count_ofDetails,
    ((s.selects_rewrite hr.permutesNodes).filterMap _).length_eq]
  exact length_filterMap_map fun block _ => Rules.isSome_havingToWhereOf_rewrite hr block

theorem nullComparison : r.KeepsCount Rules.nullComparison := by
  intro s catalog settings
  rw [Rules.nullComparison, Rule.count_ofDetails, Rule.count_ofDetails,
    ((s.predicates_rewrite hr.permutesNodes).flatMap_right _).length_eq]
  refine length_flatMap_map fun p _ => ?_
  exact Expr.length_filterMap_preorder_rewrite hr (fun _ => rfl)
    (fun _ hplain => Rules.isSome_nullComparisonOf_rewrite hr hplain) p.expr

/-- The remarks on implicit conversions stay. -/
theorem perm_implicitTypeConversion (s : Statement) (catalog : Catalog) (settings : Settings) :
    ((Rules.implicitTypeConversion.evaluate ⟨s.rewrite r, catalog, settings⟩).getD []).Perm
      ((Rules.implicitTypeConversion.evaluate ⟨s, catalog, settings⟩).getD []) := by
  -- Scopes depend on the catalog and the database, not on the statement under review.
  have hscope : Scope.ofFrom ⟨s.rewrite r, catalog, settings⟩ =
      Scope.ofFrom ⟨s, catalog, settings⟩ :=
    Scope.ofFrom_congr rfl
  refine List.Perm.map _ (((s.predicates_rewrite hr.permutesNodes).flatMap_right _).trans ?_)
  rw [List.flatMap_map]
  refine List.Perm.flatMap_left _ fun p _ => ?_
  simp only [hscope, Predicate.rewrite, Owner.fromItems_rewrite, Scope.ofFrom_rewrite hr.letters]
  split
  next => exact List.Perm.nil
  next =>
    exact Expr.filterMap_preorder_rewrite hr (fun _ => rfl)
      (fun _ hplain => Rules.conversionOf_rewrite hr _ hplain) p.expr

/-- The rule on conversions counts the same, since it finds the same up to order. -/
theorem implicitTypeConversion : r.KeepsCount Rules.implicitTypeConversion :=
  fun s catalog settings => (hr.perm_implicitTypeConversion s catalog settings).length_eq

theorem fieldArithmetic : r.KeepsCount Rules.fieldArithmetic := by
  intro s catalog settings
  rw [Rules.fieldArithmetic, Rule.count_ofDetails, Rule.count_ofDetails,
    ((s.predicates_rewrite hr.permutesNodes).flatMap_right _).length_eq]
  refine length_flatMap_map fun p _ => ?_
  exact Expr.length_flatMap_preorder_rewrite hr (fun _ => rfl)
    (fun _ hplain => Rules.length_fieldArithmeticOf_rewrite hr hplain) p.expr

/-- Every built-in rule finds as much in a statement that was rewritten cosmetically. -/
theorem keepsCount : ∀ rule ∈ Rules.builtin, r.KeepsCount rule := by
  have hnodes := hr.permutesNodes
  have hdefinitions := hr.letters.definitionRules
  simp only [List.forall_mem_cons] at hdefinitions
  simp only [Rules.builtin, List.forall_mem_cons]
  exact ⟨hr.fullScan, hnodes.selectStar, hnodes.multiJoin, hnodes.limitWithoutOrder,
    hnodes.deepOffset hr.keepsLiterals, hr.havingToWhere, hr.nullComparison,
    hr.implicitTypeConversion, hr.fieldArithmetic, hdefinitions⟩

end Rewriting.Cosmetic

end Cosmetic

end SqlAudit
