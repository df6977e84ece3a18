import Mathlib.Data.List.Nodup
import SqlAudit.Proofs.Operands
import SqlAudit.Proofs.WalkCoverage

/-! # Places of the nodes of an expression

The nodes of an expression are the expression, its operands, their operands and so on. What stands
in a query that one of them owns is none of them. So a node has a way that takes operands only, and
listing the nodes meets each of these ways once, a node before its operands and the operands in
written order.
-/

namespace SqlAudit

/-- The way goes from operand to operand. -/
def Place.ThroughOperands (place : Place) : Prop :=
  ∀ slot ∈ place, slot.isOperand = true

theorem Place.throughOperands_nil : ThroughOperands [] :=
  List.forall_mem_nil _

/-- The way leads through operands to the node. -/
def Expr.HasNodeAt (e : Expr) (place : Place) (node : Expr) : Prop :=
  Reaches (.expr e) place (.expr node) ∧ place.ThroughOperands

/-- What a clause of an expression contributes if each operand contributes something; the
expression's own query contributes nothing. -/
def operandValues {α : Type} (f : Expr → List α) : Slot × Part → List α
  | (_, .expr e) => f e
  | _ => []

/-- What is collected from the clauses is what is collected from the operands. -/
theorem Expr.flatMap_operandValues {α : Type} (f : Expr → List α) (e : Expr) :
    e.clauses.flatMap (operandValues f) = e.operands.flatMap f := by
  have hoption (slot : Slot) (x : Option Expr) :
      (optionClause slot x).flatMap (operandValues f) = x.toList.flatMap f := by
    cases x <;> simp [optionClause, operandValues]
  cases e with
  | inList operand items negated =>
      exact flatMap_eachClause (by simp [operandValues]) (operand :: items)
  | call name args wildcard distinct windowed =>
      exact flatMap_eachClause (by simp [operandValues]) args
  | caseWhen operand branches otherwise =>
      have hbranches : (eachClause (fun i (branch : CaseBranch) =>
            [(.condition i, .expr branch.condition), (.result i, .expr branch.result)])
          branches).flatMap (operandValues f) = (Expr.branchOperands branches).flatMap f := by
        rw [Expr.branchOperands, List.flatMap_assoc]
        exact flatMap_eachClause (by simp [operandValues]) branches
      simp only [Expr.clauses, Expr.operands, List.flatMap_append, hoption, hbranches,
        List.append_assoc]
  | _ => simp [Expr.clauses, Expr.operands, operandValues]

theorem Expr.mem_operands_of_clause {e operand : Expr} {slot : Slot}
    (hclause : (slot, .expr operand) ∈ e.clauses) : operand ∈ e.operands := by
  have hmem : operand ∈ e.clauses.flatMap (operandValues fun x => [x]) :=
    List.mem_flatMap.mpr ⟨_, hclause, List.mem_singleton_self operand⟩
  rw [flatMap_operandValues] at hmem
  simpa using hmem

/-- A node is the expression itself or a node of one of its operands. -/
theorem Expr.hasNodeAt_iff {e : Expr} {place : Place} {node : Expr} :
    e.HasNodeAt place node ↔ (place = [] ∧ node = e) ∨
      Behind (fun clause rest x => ∃ operand, clause.2 = .expr operand ∧ operand.HasNodeAt rest x)
        e.clauses place node := by
  constructor
  · rintro ⟨hreach, hoperands⟩
    cases hreach with
    | here => exact Or.inl ⟨rfl, rfl⟩
    | inside hclause hrest =>
        obtain ⟨hslot, hplace⟩ := List.forall_mem_cons.mp hoperands
        rcases Expr.clause_cases hclause with ⟨-, operand, rfl⟩ | ⟨rfl, -⟩
        · exact Or.inr ⟨_, _, _, hclause, rfl, operand, rfl, hrest, hplace⟩
        · cases hslot
  · rintro (⟨rfl, rfl⟩ | ⟨slot, c, rest, hclause, rfl, operand, rfl, hrest, hplace⟩)
    · exact ⟨.here _, Place.throughOperands_nil⟩
    · rcases Expr.clause_cases hclause with ⟨hslot, -⟩ | ⟨-, q, hquery⟩
      · exact ⟨.inside hclause hrest, List.forall_mem_cons.mpr ⟨hslot, hplace⟩⟩
      · cases hquery

theorem Expr.hasNodeAt_nil_iff {e node : Expr} : e.HasNodeAt [] node ↔ node = e := by
  rw [hasNodeAt_iff]
  simp [Behind]

/-- A node below the root is a node of the operand in the first slot. -/
theorem Expr.hasNodeAt_cons_iff {e node : Expr} {slot : Slot} {rest : Place} :
    e.HasNodeAt (slot :: rest) node ↔ ∃ operand, (slot, .expr operand) ∈ e.clauses ∧
      operand.HasNodeAt rest node := by
  rw [hasNodeAt_iff]
  simp only [Behind, reduceCtorEq, false_and, false_or, List.cons.injEq]
  constructor
  · rintro ⟨_, _, _, hclause, ⟨rfl, rfl⟩, operand, rfl, hnode⟩
    exact ⟨operand, hclause, hnode⟩
  · rintro ⟨operand, hclause, hnode⟩
    exact ⟨slot, _, rest, hclause, ⟨rfl, rfl⟩, operand, rfl, hnode⟩

/-- No slot is used twice. -/
theorem Expr.clause_unique {e : Expr} {slot : Slot} {c d : Part} (hc : (slot, c) ∈ e.clauses)
    (hd : (slot, d) ∈ e.clauses) : c = d := by
  have hslots : (e.clauses.map Prod.fst).Nodup := by
    refine List.pairwise_map.mpr (e.clauses_inOrder.imp ?_)
    intro a b hbefore heq
    rw [heq] at hbefore
    exact List.lt_irrefl _ hbefore
  exact congrArg Prod.snd (List.inj_on_of_nodup_map hslots hc hd rfl)

/-- A walk may stop at some nodes. At the others it collects what the node has of its own and then
what the operands have. So it lists what can be located without passing a node at which it stops, in
the order of places. -/
theorem Expr.exists_enumerates_collected {α : Type} (stop : Expr → Bool) (own f : Expr → List α)
    (located : Expr → Place → α → Prop) (hown : ∀ e, (own e).length ≤ 1)
    (hf : ∀ e, f e = if stop e then [] else own e ++ e.operands.flatMap f)
    (hlocated : ∀ e way x, located e way x ↔ stop e = false ∧ ((way = [] ∧ x ∈ own e) ∨
      Behind (fun clause rest x => ∃ operand, clause.2 = .expr operand ∧ located operand rest x)
        e.clauses way x)) (e : Expr) :
    ∃ entries, Enumerates (fun a b => a.key < b.key) entries (f e) (located e) := by
  induction e using operandInduction with
  | step e ih =>
      rw [hf]
      cases hstop : stop e with
      | true => exact ⟨[], rfl, fun way x => by simp [hlocated e, hstop], List.Pairwise.nil⟩
      | false =>
          have hclauses : ∀ clause ∈ e.clauses, ∃ entries,
              Enumerates (fun a b => a.key < b.key) entries (operandValues f clause)
                (fun rest x => ∃ operand, clause.2 = .expr operand ∧ located operand rest x) := by
            rintro ⟨slot, c⟩ hclause
            rcases Expr.clause_cases hclause with ⟨-, operand, rfl⟩ | ⟨-, q, rfl⟩
            · obtain ⟨entries, hentries⟩ := ih operand (mem_operands_of_clause hclause)
              exact ⟨entries, hentries.congr rfl fun _ _ => by simp⟩
            · exact ⟨[], rfl, by simp, List.Pairwise.nil⟩
          obtain ⟨entries, hentries⟩ := Enumerates.exists_clauses hclauses e.clauses_inOrder
          refine ⟨_, ((Enumerates.atPlace [] (hown e)).append hentries ?_).congr ?_ fun way x => ?_⟩
          · rintro _ _ _ _ ⟨rfl, -⟩ ⟨_, _, _, -, rfl, -⟩
            exact List.Lex.nil
          · rw [e.flatMap_operandValues]
            rfl
          · rw [hlocated, hstop]
            simp only [true_and]

/-- Listing the nodes of an expression meets exactly the nodes that operands lead to, in the order
of places. -/
theorem Expr.exists_enumerates_preorder (e : Expr) :
    ∃ entries, Enumerates (fun a b => a.key < b.key) entries e.preorder e.HasNodeAt := by
  refine exists_enumerates_collected (fun _ => false) (fun e => [e]) preorder HasNodeAt
    (fun _ => Nat.le_refl 1)
    (fun e => e.preorder_eq) (fun e way node => ?_) e
  rw [Expr.hasNodeAt_iff, List.mem_singleton]
  simp only [true_and]

/-- The nodes of an expression are what operands lead to. -/
theorem Expr.mem_preorder_iff {e node : Expr} :
    node ∈ e.preorder ↔ ∃ way, e.HasNodeAt way node := by
  obtain ⟨entries, hentries⟩ := e.exists_enumerates_preorder
  simp [← hentries.listed_eq, ← hentries.mem_iff]

end SqlAudit
