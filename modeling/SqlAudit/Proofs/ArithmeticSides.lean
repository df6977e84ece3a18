import SqlAudit.Proofs.PredicateFindings

/-! # Arithmetic on a side of a comparison

The rule on arithmetic looks at the sides of the comparisons in predicates. A side is found if it is
arithmetic, possibly in parentheses, and a column stands somewhere in it outside nested queries. The
rule scans the nodes of the side and takes the first one that is a column after its parentheses are
removed. This is the leftmost column, for a column in parentheses comes right after them.
-/

namespace SqlAudit

/-! ## The leftmost column -/

/-- The column that the node itself is. -/
def Expr.column? : Expr → Option ColumnRef
  | .column ref => some ref
  | _ => none

theorem Expr.column?_eq_some_iff {e : Expr} {ref : ColumnRef} :
    e.column? = some ref ↔ e = .column ref := by
  cases e <;> simp [column?]

/-- A column of the expression before which no other column stands. -/
def Expr.LeftmostColumn (e : Expr) (ref : ColumnRef) : Prop :=
  ∃ way, e.HasNodeAt way (.column ref) ∧
    ∀ way' ref', e.HasNodeAt way' (.column ref') → ¬ Place.Before way' way

/-- A scan that looks through parentheses meets a column at its outermost parentheses, where no
other column has come in between. -/
theorem Expr.findSome?_asColumn_preorder (e : Expr) :
    e.preorder.findSome? asColumn = e.preorder.findSome? column? := by
  induction e using operandInduction with
  | step e ih =>
      have hscan (f : Expr → Option ColumnRef) : (e.operands.flatMap preorder).findSome? f =
          e.operands.findSome? fun operand => operand.preorder.findSome? f := by
        simp only [← List.head?_filterMap, List.filterMap_flatMap, List.head?_flatMap]
      have hoperands : (e.operands.flatMap preorder).findSome? asColumn =
          (e.operands.flatMap preorder).findSome? column? := by
        rw [hscan, hscan, ← List.head?_filterMap, ← List.head?_filterMap, List.filterMap_congr ih]
      rw [preorder_eq, List.findSome?_cons, List.findSome?_cons, hoperands]
      cases e with
      | nested inner =>
          cases hinner : inner.asColumn with
          | none => simp only [asColumn, hinner, column?]
          | some ref =>
              -- The scan of the inner expression stops at its first node.
              have hfirst := ih inner List.mem_cons_self
              rw [preorder_eq, List.findSome?_cons, hinner] at hfirst
              simp only [asColumn, hinner, column?, operands, List.flatMap_singleton,
                preorder_eq inner]
              exact hfirst
      | _ => rfl

/-- The search through the nodes stops at the leftmost column of the expression. -/
theorem Expr.findSome?_column?_eq_some_iff {e : Expr} {ref : ColumnRef} :
    e.preorder.findSome? column? = some ref ↔ e.LeftmostColumn ref := by
  obtain ⟨entries, hentries⟩ := e.exists_enumerates_preorder
  rw [← List.head?_filterMap, (hentries.filterMap column?).head?_eq_some_iff List.lt_asymm]
  simp only [column?_eq_some_iff, exists_eq_right, LeftmostColumn]
  rfl

/-- A side counts if there is arithmetic below its parentheses, and its column is the leftmost one.
-/
theorem Rules.arithmeticColumn_eq_some_iff {side : Expr} {ref : ColumnRef} :
    arithmeticColumn side = some ref ↔
      side.unnest.isArithmetic = true ∧ side.unnest.LeftmostColumn ref := by
  rw [← Expr.findSome?_column?_eq_some_iff, ← Expr.findSome?_asColumn_preorder, arithmeticColumn]
  cases side.unnest with
  | binary left op right =>
      cases harithmetic : op.isArithmetic <;> simp [Expr.isArithmetic, harithmetic]
  | _ => simp [Expr.isArithmetic]

/-- An expression has a leftmost column if it has a column at all. -/
theorem Expr.exists_leftmostColumn_iff {e : Expr} :
    (∃ ref, e.LeftmostColumn ref) ↔ ∃ way ref, e.HasNodeAt way (.column ref) := by
  constructor
  · rintro ⟨ref, way, hnode, -⟩
    exact ⟨way, ref, hnode⟩
  · rintro ⟨way, ref, hnode⟩
    have hsome : (e.preorder.findSome? column?).isSome = true :=
      List.findSome?_isSome_iff.mpr ⟨_, mem_preorder_iff.mpr ⟨way, hnode⟩, rfl⟩
    obtain ⟨first, hfirst⟩ := Option.isSome_iff_exists.mp hsome
    exact ⟨first, findSome?_column?_eq_some_iff.mp hfirst⟩

/-! ## Sides of comparisons -/

/-- Arithmetic is one of five operators at the top of the expression. -/
theorem Expr.isArithmetic_iff {e : Expr} :
    e.isArithmetic = true ↔ ∃ left op right, e = .binary left op right ∧
      op ∈ [BinaryOp.plus, .minus, .multiply, .divide, .modulo] := by
  cases e with
  | binary left op right => cases op <;> simp [isArithmetic, BinaryOp.isArithmetic]
  | _ => simp [isArithmetic]

/-- The expression is a comparison and has the side in the slot. -/
def Expr.HasSide (comparison : Expr) (slot : Slot) (side : Expr) : Prop :=
  ∃ left op right, comparison = .binary left op right ∧ op.isComparison = true ∧
    ((slot = .operand 0 ∧ side = left) ∨ (slot = .operand 1 ∧ side = right))

/-- A side of a comparison that is arithmetic on a column. -/
structure ArithmeticSide where
  comparison : Expr
  side : Expr
  column : ColumnRef

def ArithmeticSide.remark (x : ArithmeticSide) : String :=
  Rules.arithmeticRemark x.comparison x.side x.column

namespace Rules

/-- The side in a slot of a comparison, if it is arithmetic on a column. -/
def arithmeticSide? (comparison : Expr) (slot : Slot) (side : Expr) :
    Option (Slot × ArithmeticSide) :=
  (arithmeticColumn side).map fun ref => (slot, ⟨comparison, side, ref⟩)

/-- The sides of a node that are arithmetic on a column, each with its slot. -/
def arithmeticSides : Expr → List (Slot × ArithmeticSide)
  | .binary left op right =>
    if op.isComparison then
      [(Slot.operand 0, left), (.operand 1, right)].filterMap fun side =>
        arithmeticSide? (.binary left op right) side.1 side.2
    else []
  | _ => []

theorem fieldArithmeticOf_eq (e : Expr) :
    fieldArithmeticOf e = (arithmeticSides e).map fun found => found.2.remark := by
  cases e with
  | binary left op right =>
      rw [fieldArithmeticOf, arithmeticSides]
      split
      next =>
        cases hleft : arithmeticColumn left <;> cases hright : arithmeticColumn right <;>
          simp [arithmeticSide?, hleft, hright, ArithmeticSide.remark]
      next => rfl
  | _ => rfl

/-- What is listed for a node: its sides with arithmetic, each with its leftmost column. -/
theorem mem_arithmeticSides {e : Expr} {slot : Slot} {x : ArithmeticSide} :
    (slot, x) ∈ arithmeticSides e ↔
      x.comparison = e ∧ e.HasSide slot x.side ∧ x.side.unnest.isArithmetic = true ∧
        x.side.unnest.LeftmostColumn x.column := by
  rw [← arithmeticColumn_eq_some_iff]
  obtain ⟨comparison, side, ref⟩ := x
  cases e with
  | binary left op right =>
      simp only [arithmeticSides, arithmeticSide?, Expr.HasSide]
      split
      next hcomparison =>
        simp only [List.mem_filterMap, List.mem_cons, List.not_mem_nil, or_false,
          Option.map_eq_some_iff, Prod.mk.injEq, ArithmeticSide.mk.injEq, Expr.binary.injEq]
        constructor
        · rintro ⟨_, rfl | rfl, _, hcolumn, rfl, rfl, rfl, rfl⟩
          · exact ⟨rfl, ⟨left, op, right, ⟨rfl, rfl, rfl⟩, hcomparison, Or.inl ⟨rfl, rfl⟩⟩, hcolumn⟩
          · exact ⟨rfl, ⟨left, op, right, ⟨rfl, rfl, rfl⟩, hcomparison, Or.inr ⟨rfl, rfl⟩⟩, hcolumn⟩
        · rintro ⟨rfl, ⟨_, _, _, ⟨rfl, rfl, rfl⟩, -, ⟨rfl, rfl⟩ | ⟨rfl, rfl⟩⟩, hcolumn⟩
          · exact ⟨_, Or.inl rfl, ref, hcolumn, rfl, rfl, rfl, rfl⟩
          · exact ⟨_, Or.inr rfl, ref, hcolumn, rfl, rfl, rfl, rfl⟩
      next hother => simp [hother]
  | _ => simp [arithmeticSides, Expr.HasSide]

theorem arithmeticSides_nodup (e : Expr) : ((arithmeticSides e).map Prod.fst).Nodup := by
  cases e with
  | binary left op right =>
      rw [arithmeticSides]
      split
      next =>
        cases hleft : arithmeticColumn left <;> cases hright : arithmeticColumn right <;>
          simp [arithmeticSide?, hleft, hright]
      next => exact List.nodup_nil
  | _ => exact List.nodup_nil

end Rules

/-! ## Findings -/

/-- Sides of different comparisons, or in different slots of one, are kept apart. -/
theorem nodup_arithmeticSides {nodes : List (Place × Predicate × Expr)}
    (hnodes : (nodes.map Prod.fst).Nodup) :
    ((nodes.flatMap fun node => (Rules.arithmeticSides node.2.2).map fun found =>
      ((node.1, found.1), found.2)).map Prod.fst).Nodup := by
  rw [List.map_flatMap, List.nodup_flatMap]
  constructor
  · intro node _
    have hslots := (Rules.arithmeticSides_nodup node.2.2).map (Prod.mk_right_injective node.1)
    simpa [List.map_map, Function.comp_def] using hslots
  · refine (List.pairwise_map.mp hnodes).imp fun {a b} hne => ?_
    intro key ha hb
    simp only [List.map_map, List.mem_map, Function.comp_def] at ha hb
    obtain ⟨_, -, rfl⟩ := ha
    obtain ⟨_, -, heq⟩ := hb
    exact hne (congrArg Prod.fst heq).symm

/-- The rule on arithmetic has one finding for each side of a comparison in a predicate that,
without the parentheses around it, is one of the five arithmetic operations with a column in it
outside nested queries, and no other findings. The finding names the leftmost of these columns. -/
theorem fieldArithmetic_finds_sides (ctx : Context) :
    ∃ found : List ((Place × Slot) × ArithmeticSide),
      (found.map Prod.fst).Nodup ∧
      (∀ place slot, (place, slot) ∈ found.map Prod.fst ↔
        ∃ p comparison side, PredicateNodeAt ctx.statement place p comparison ∧
          comparison.HasSide slot side ∧
          (∃ left op right, side.unnest = .binary left op right ∧
            op ∈ [BinaryOp.plus, .minus, .multiply, .divide, .modulo]) ∧
          ∃ way ref, side.unnest.HasNodeAt way (.column ref)) ∧
      (∀ place slot x, ((place, slot), x) ∈ found →
        (∃ p, PredicateNodeAt ctx.statement place p x.comparison) ∧
          x.comparison.HasSide slot x.side ∧
          x.side.unnest.LeftmostColumn x.column) ∧
      Rules.fieldArithmetic.evaluate ctx =
        some (found.map fun entry => ⟨"field-arithmetic", .blocker, entry.2.remark⟩) := by
  obtain ⟨nodes, hnodes⟩ := ctx.statement.exists_listsNodes
  have hmem (place : Place) (slot : Slot) (x : ArithmeticSide) :
      ((place, slot), x) ∈ (nodes.flatMap fun node =>
        (Rules.arithmeticSides node.2.2).map fun found =>
        ((node.1, found.1), found.2)) ↔
      (∃ p, PredicateNodeAt ctx.statement place p x.comparison) ∧ x.comparison.HasSide slot x.side ∧
        x.side.unnest.isArithmetic = true ∧ x.side.unnest.LeftmostColumn x.column := by
    simp only [List.mem_flatMap, List.mem_map, Prod.exists, Prod.mk.injEq, hnodes.mem_iff,
      Rules.mem_arithmeticSides]
    constructor
    · rintro ⟨_, p, e, hnode, _, _, ⟨rfl, hside⟩, ⟨rfl, rfl⟩, rfl⟩
      exact ⟨⟨p, hnode⟩, hside⟩
    · rintro ⟨⟨p, hnode⟩, hside⟩
      exact ⟨place, p, _, hnode, slot, x, ⟨rfl, hside⟩, ⟨rfl, rfl⟩, rfl⟩
  refine ⟨_, nodup_arithmeticSides hnodes.nodup, fun place slot => ?_,
    fun place slot x hx => ?_, ?_⟩
  · rw [List.mem_map]
    constructor
    · rintro ⟨⟨_, x⟩, hx, rfl⟩
      obtain ⟨⟨p, hnode⟩, hside, harithmetic, hcolumn⟩ := (hmem place slot x).mp hx
      exact ⟨p, x.comparison, x.side, hnode, hside, Expr.isArithmetic_iff.mp harithmetic,
        Expr.exists_leftmostColumn_iff.mp ⟨x.column, hcolumn⟩⟩
    · rintro ⟨p, comparison, side, hnode, hside, harithmetic, hcolumn⟩
      obtain ⟨ref, hleftmost⟩ := Expr.exists_leftmostColumn_iff.mpr hcolumn
      have hx := (hmem place slot ⟨comparison, side, ref⟩).mpr
        ⟨⟨p, hnode⟩, hside, Expr.isArithmetic_iff.mpr harithmetic, hleftmost⟩
      exact ⟨_, hx, rfl⟩
  · obtain ⟨hnode, hside, -, hcolumn⟩ := (hmem place slot x).mp hx
    exact ⟨hnode, hside, hcolumn⟩
  · have hremarks := hnodes.flatMap_predicates fun _ e => Rules.fieldArithmeticOf e
    rw [Rules.fieldArithmetic, Rule.ofDetails]
    simp only [hremarks, Rules.fieldArithmeticOf_eq, List.map_flatMap, List.map_map]
    rfl

end SqlAudit
