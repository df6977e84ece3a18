import SqlAudit.Proofs.Place
import SqlAudit.Proofs.Rewriting

/-! # Places of a rewritten statement

A rewriting goes through every clause of a part and rewrites what the clause leads to. A part other
than an expression keeps its clauses in this way, while an expression may be made into another one
afterwards. If the rewriting of expressions brings in nothing new, then whatever place of a
rewritten statement one goes to, the part there is the rewriting of some part.
-/

namespace SqlAudit

def Part.rewrite (r : Rewriting) : Part → Part
  | .statement s => .statement (s.rewrite r)
  | .query q => .query (q.rewrite r)
  | .body b => .body (b.rewrite r)
  | .select block => .select (block.rewrite r)
  | .relation source => .relation (source.rewrite r)
  | .expr e => .expr (e.rewrite r)

/-- The part with what its clauses lead to rewritten. -/
def Part.rewriteParts (r : Rewriting) : Part → Part
  | .expr e => .expr (e.rewriteParts r)
  | p => p.rewrite r

/-- The clauses with the parts behind them rewritten. -/
def rewriteClauses (r : Rewriting) (clauses : List (Slot × Part)) : List (Slot × Part) :=
  clauses.map fun clause => (clause.1, clause.2.rewrite r)

variable (r : Rewriting)

/-! ## Lists of clauses -/

theorem rewriteClauses_append (first second : List (Slot × Part)) :
    rewriteClauses r (first ++ second) = rewriteClauses r first ++ rewriteClauses r second :=
  List.map_append

theorem optionClause_rewrite (slot : Slot) (e : Option Expr) :
    optionClause slot (e.map (Expr.rewrite r)) = rewriteClauses r (optionClause slot e) := by
  cases e <;> rfl

/-- If each element's clauses are rewritten, so are those of the list. -/
theorem eachClause_rewrite {α : Type} {f : Nat → α → List (Slot × Part)} {change : α → α}
    (hf : ∀ i x, f i (change x) = rewriteClauses r (f i x)) (entries : List α) :
    eachClause f (entries.map change) = rewriteClauses r (eachClause f entries) := by
  rw [eachClause, eachClause, rewriteClauses, List.map_flatten]
  congr 1
  refine List.ext_getElem? fun i => ?_
  simp only [List.getElem?_mapIdx, List.getElem?_map, Option.map_map]
  exact Option.map_congr fun x _ => hf i x

theorem exprClauses_rewrite (slot : Nat → Slot) (es : List Expr) :
    exprClauses slot (es.map (Expr.rewrite r)) = rewriteClauses r (exprClauses slot es) :=
  eachClause_rewrite r (fun _ _ => rfl) es

theorem fromClauses_rewrite (items : List FromItem) :
    fromClauses (items.map (FromItem.rewrite r)) = rewriteClauses r (fromClauses items) := by
  rw [fromClauses, fromClauses, rewriteClauses_append]
  congr 1
  · refine eachClause_rewrite r (fun i item => ?_) items
    cases item
    rfl
  · refine eachClause_rewrite r (fun i item => ?_) items
    obtain ⟨relation, joins⟩ := item
    rw [FromItem.rewrite, Join.rewriteAll_eq]
    refine eachClause_rewrite r (fun j join => ?_) joins
    exact congrArg _ (optionClause_rewrite r (.on i j) join.on)

/-! ## Clauses of rewritten parts -/

/-- Before the change at the node itself, the slots stay and their parts are rewritten. -/
theorem Expr.clauses_rewriteParts (e : Expr) :
    (e.rewriteParts r).clauses = rewriteClauses r e.clauses := by
  cases e with
  | inList operand items negated => exact exprClauses_rewrite r .operand (operand :: items)
  | call name args wildcard distinct windowed => exact exprClauses_rewrite r .operand args
  | caseWhen operand branches otherwise =>
      rw [Expr.rewriteParts, Expr.clauses, Expr.clauses, rewriteClauses_append,
        rewriteClauses_append, optionClause_rewrite, optionClause_rewrite,
        eachClause_rewrite r fun _ _ => rfl]
  | _ => rfl

theorem Statement.clauses_rewrite (s : Statement) :
    (s.rewrite r).clauses = rewriteClauses r s.clauses := by
  cases s with
  | insert change =>
      rw [Statement.rewrite, Insert.rewrite, Statement.clauses, Statement.clauses]
      cases change.source <;> rfl
  | update change =>
      rw [Statement.rewrite, Update.rewrite, Statement.clauses, Statement.clauses,
        rewriteClauses_append, rewriteClauses_append, optionClause_rewrite,
        eachClause_rewrite r fun _ _ => rfl]
      exact congrArg (· ++ _) (fromClauses_rewrite r [change.table])
  | delete change =>
      rw [Statement.rewrite, Delete.rewrite, Statement.clauses, Statement.clauses,
        rewriteClauses_append, fromClauses_rewrite, optionClause_rewrite]
  | _ => rfl

theorem Query.clauses_rewrite (q : Query) :
    (Part.query (q.rewrite r)).clauses = rewriteClauses r (Part.query q).clauses := by
  obtain ⟨ctes, body, orderBy, limit, offset⟩ := q
  rw [Query.rewrite, Cte.rewriteAll_eq, SortKey.rewriteAll_eq, Expr.rewriteOption_eq,
    Expr.rewriteOption_eq, Part.clauses, Part.clauses]
  dsimp only
  rw [eachClause_rewrite r fun _ _ => rfl, eachClause_rewrite r fun _ _ => rfl,
    optionClause_rewrite,
    optionClause_rewrite, ← rewriteClauses_append, ← rewriteClauses_append, ← rewriteClauses_append]
  rfl

theorem Body.clauses_rewrite (b : Body) :
    (Part.body (b.rewrite r)).clauses = rewriteClauses r (Part.body b).clauses := by
  cases b with
  | values rows =>
      rw [Body.rewrite, Expr.rewriteRows_eq]
      exact eachClause_rewrite r (fun i row => eachClause_rewrite r (fun _ _ => rfl) row) rows
  | _ => rfl

theorem Select.clauses_rewrite (block : Select) :
    (Part.select (block.rewrite r)).clauses = rewriteClauses r (Part.select block).clauses := by
  have hitem (i : Nat) (item : SelectItem) :
      itemClause i (item.rewrite r) = rewriteClauses r (itemClause i item) := by
    cases item <;> rfl
  rw [Part.clauses, Part.clauses, Select.fromItems_rewrite, Select.filter_rewrite,
    Select.items_rewrite, Select.groupBy_rewrite, Select.having_rewrite]
  simp only [rewriteClauses_append, fromClauses_rewrite, optionClause_rewrite, exprClauses_rewrite,
    eachClause_rewrite r hitem]

theorem Relation.clauses_rewrite (source : Relation) :
    (Part.relation (source.rewrite r)).clauses =
      rewriteClauses r (Part.relation source).clauses := by
  cases source with
  | nested item => exact fromClauses_rewrite r [item]
  | _ => rfl

/-- The clauses stay as they are and lead to rewritten parts. -/
theorem Part.clauses_rewriteParts (p : Part) :
    (p.rewriteParts r).clauses = rewriteClauses r p.clauses := by
  cases p with
  | statement s => exact s.clauses_rewrite r
  | query q => exact q.clauses_rewrite r
  | body b => exact b.clauses_rewrite r
  | select block => exact block.clauses_rewrite r
  | relation source => exact source.clauses_rewrite r
  | expr e => exact e.clauses_rewriteParts r

/-! ## Places -/

/-- The clauses all lead to parts that the rewriting has produced. -/
def Rewritten (r : Rewriting) (clauses : List (Slot × Part)) : Prop :=
  ∀ clause ∈ clauses, ∃ p : Part, clause.2 = p.rewrite r

variable {r}

/-- All that a rewritten part holds is rewritten. -/
theorem Part.rewritten_clauses_rewriteParts (p : Part) :
    Rewritten r (p.rewriteParts r).clauses := by
  intro clause hclause
  rw [p.clauses_rewriteParts] at hclause
  obtain ⟨source, -, rfl⟩ := List.mem_map.mp hclause
  exact ⟨source.2, rfl⟩

/-- Going down from a rewritten part leads to rewritten parts only, if that holds for expressions.
-/
theorem Reaches.rewritten (hexpr : ∀ e : Expr, Rewritten r (e.rewrite r).clauses) {p d : Part}
    {place : Place} (hreach : Reaches (p.rewrite r) place d) : ∃ d' : Part, d = d'.rewrite r := by
  have hclauses (p : Part) : Rewritten r (p.rewrite r).clauses := by
    have hparts := p.rewritten_clauses_rewriteParts (r := r)
    cases p with
    | expr e => exact hexpr e
    | _ => exact hparts
  -- The induction goes down the way and carries along which part was rewritten.
  generalize hstart : p.rewrite r = start at hreach
  induction hreach generalizing p with
  | here _ => exact ⟨p, hstart.symm⟩
  | inside hclause _ ih =>
      subst hstart
      obtain ⟨c', hc⟩ := hclauses p _ hclause
      exact ih hc.symm

end SqlAudit
