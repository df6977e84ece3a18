import SqlAudit.Proofs.OperandPlaces

/-! # Columns of `HAVING`

A condition of `HAVING` on a column that is not aggregated could as well stand in `WHERE`. Such a
column is reached from the condition without passing an aggregate call or entering a nested query,
and it is not the alias of a select list entry that aggregates. The rule lists the texts of these
columns, each once, in the order in which they first occur.
-/

namespace SqlAudit

/-! ## Columns outside aggregates -/

/-- The way leads through operands to a column, and no node on it is an aggregate call. -/
structure Expr.PlainColumnAt (e : Expr) (way : Place) (ref : ColumnRef) : Prop where
  hasNode : e.HasNodeAt way (.column ref)
  plain : ∀ before rest node, way = before ++ rest → e.HasNodeAt before node →
    Rules.isAggregateCall node = false

/-- The plain columns of a node are the column that it is and the plain columns of its operands;
those of an aggregate call are none. -/
theorem Expr.plainColumnAt_iff {e : Expr} {way : Place} {ref : ColumnRef} :
    e.PlainColumnAt way ref ↔ Rules.isAggregateCall e = false ∧ ((way = [] ∧ ref ∈ e.ownColumns) ∨
      Behind (fun clause rest ref => ∃ operand, clause.2 = .expr operand ∧
        operand.PlainColumnAt rest ref)
        e.clauses way ref) := by
  have hown : ref ∈ e.ownColumns ↔ .column ref = e := by
    cases e <;> simp [ownColumns]
  constructor
  · rintro ⟨hnode, hplain⟩
    refine ⟨hplain [] way e rfl (hasNodeAt_nil_iff.mpr rfl), ?_⟩
    cases way with
    | nil => exact Or.inl ⟨rfl, hown.mpr (hasNodeAt_nil_iff.mp hnode)⟩
    | cons slot rest =>
        obtain ⟨operand, hclause, hrest⟩ := hasNodeAt_cons_iff.mp hnode
        refine Or.inr ⟨slot, _, rest, hclause, rfl, operand, rfl, hrest, ?_⟩
        rintro before after node rfl hbefore
        exact hplain (slot :: before) after node rfl
          (hasNodeAt_cons_iff.mpr ⟨operand, hclause, hbefore⟩)
  · rintro ⟨hself, ⟨rfl, href⟩ | ⟨slot, _, rest, hclause, rfl, operand, rfl, hrest, hplain⟩⟩
    · refine ⟨hasNodeAt_nil_iff.mpr (hown.mp href), ?_⟩
      intro before after node hway hbefore
      obtain ⟨rfl, -⟩ := List.append_eq_nil_iff.mp hway.symm
      exact hasNodeAt_nil_iff.mp hbefore ▸ hself
    · refine ⟨hasNodeAt_cons_iff.mpr ⟨operand, hclause, hrest⟩, ?_⟩
      intro before after node hway hbefore
      cases before with
      | nil => exact hasNodeAt_nil_iff.mp hbefore ▸ hself
      | cons first before =>
          obtain ⟨rfl, rfl⟩ := List.cons.inj hway
          obtain ⟨other, hother, hbefore⟩ := hasNodeAt_cons_iff.mp hbefore
          -- The way to the node begins as the way to the column, so it goes through the same
          -- operand.
          cases clause_unique hclause hother
          exact hplain before after node rfl hbefore

/-- The columns outside aggregate calls are listed in written order, each once. -/
theorem Expr.exists_enumerates_plainColumns (e : Expr) :
    ∃ entries, Enumerates (fun a b => a.key < b.key) entries (Rules.plainColumns e)
      e.PlainColumnAt := by
  have hown (e : Expr) : e.ownColumns.length ≤ 1 := by
    cases e <;> simp [ownColumns]
  exact exists_enumerates_collected Rules.isAggregateCall ownColumns Rules.plainColumns
    PlainColumnAt hown
    Rules.plainColumns_eq (fun _ _ _ => plainColumnAt_iff) e

/-! ## Aliases of aggregates -/

/-- The reference is an unqualified name, and a select list entry that holds an aggregate call
outside nested queries has it as its alias. -/
def Select.NamesAggregate (block : Select) (ref : ColumnRef) : Prop :=
  ref.qualifier = none ∧ ∃ value aliasName, .expr value (some aliasName) ∈ block.items ∧
    Text.lower aliasName = Text.lower ref.name ∧
    ∃ way call, value.HasNodeAt way call ∧ Rules.isAggregateCall call = true

namespace Rules

/-- An aggregate may stand at any node outside nested queries. -/
theorem containsAggregate_iff {e : Expr} :
    containsAggregate e = true ↔ ∃ way call, e.HasNodeAt way call ∧
      isAggregateCall call = true := by
  simp only [containsAggregate, List.any_eq_true, Expr.mem_preorder_iff]
  constructor
  · rintro ⟨call, ⟨way, hnode⟩, hcall⟩
    exact ⟨way, call, hnode, hcall⟩
  · rintro ⟨way, call, hnode, hcall⟩
    exact ⟨call, ⟨way, hnode⟩, hcall⟩

/-- The aliases of selected values that hold an aggregate. -/
theorem mem_aggregateAliases {block : Select} {aliasName : String} :
    aliasName ∈ aggregateAliases block ↔
      ∃ value, .expr value (some aliasName) ∈ block.items ∧ containsAggregate value = true := by
  rw [aggregateAliases, List.mem_filterMap]
  constructor
  · rintro ⟨item, hitem, hfound⟩
    split at hfound
    next value found =>
      obtain ⟨hvalue, heq⟩ := Option.ite_none_right_eq_some.mp hfound
      cases heq
      exact ⟨value, hitem, hvalue⟩
    next => cases hfound
  · rintro ⟨value, hitem, hvalue⟩
    exact ⟨_, hitem, if_pos hvalue⟩

theorem isAggregateAlias_iff {block : Select} {ref : ColumnRef} :
    isAggregateAlias (aggregateAliases block) ref = true ↔ block.NamesAggregate ref := by
  simp only [isAggregateAlias, Bool.and_eq_true, Option.isNone_iff_eq_none, List.any_eq_true,
    mem_aggregateAliases, containsAggregate_iff, Text.same, beq_iff_eq]
  refine and_congr_right fun _ => ?_
  constructor
  · rintro ⟨aliasName, ⟨value, hitem, hcall⟩, hname⟩
    exact ⟨value, aliasName, hitem, hname, hcall⟩
  · rintro ⟨value, aliasName, hitem, hname, hcall⟩
    exact ⟨aliasName, ⟨value, hitem, hcall⟩, hname⟩

/-! ## Distinct texts -/

theorem mem_distinctTexts {s : String} {texts : List String} :
    s ∈ distinctTexts texts ↔ s ∈ texts := by
  induction texts with
  | nil => rfl
  | cons first rest ih =>
      simp only [distinctTexts, List.mem_cons, List.mem_filter, ih, bne_iff_ne]
      by_cases hfirst : s = first <;> simp [hfirst]

theorem nodup_distinctTexts (texts : List String) : (distinctTexts texts).Nodup := by
  induction texts with
  | nil => exact List.nodup_nil
  | cons first rest ih =>
      refine List.nodup_cons.mpr ⟨?_, ih.filter _⟩
      simp

/-- The distinct texts of a list stand in the order in which they first occur. -/
theorem pairwise_distinctTexts {entries : List (Place × String)} {R : Place → Place → Prop}
    (hentries : entries.Pairwise fun a b => R a.1 b.1) :
    (distinctTexts (entries.map Prod.snd)).Pairwise fun a b =>
      ∃ place, (place, a) ∈ entries ∧ ∀ place', (place', b) ∈ entries → R place place' := by
  induction entries with
  | nil => exact List.Pairwise.nil
  | cons first rest ih =>
      obtain ⟨hfirst, hrest⟩ := List.pairwise_cons.mp hentries
      -- A text other than the first one occurs among the rest only.
      have hother {place : Place} {b : String} (hb : b ≠ first.2)
          (hmem : (place, b) ∈ first :: rest) :
          (place, b) ∈ rest := by
        rcases List.mem_cons.mp hmem with rfl | hmem
        · exact absurd rfl hb
        · exact hmem
      refine List.pairwise_cons.mpr ⟨fun b hb => ?_, ?_⟩
      · have hne : b ≠ first.2 := by simpa using (List.mem_filter.mp hb).2
        exact ⟨first.1, List.mem_cons_self, fun place' hplace => hfirst _ (hother hne hplace)⟩
      · refine List.Pairwise.imp_of_mem ?_ ((ih hrest).filter _)
        rintro a b - hb ⟨place, hplace, hbefore⟩
        have hne : b ≠ first.2 := by simpa using (List.mem_filter.mp hb).2
        exact ⟨place, List.mem_cons_of_mem _ hplace,
          fun place' hplace' => hbefore _ (hother hne hplace')⟩

end Rules

/-! ## Findings -/

/-- At the way from the `HAVING` of the block stands a column outside aggregate calls and nested
queries, and it is not the alias of an aggregate. -/
def Select.EarlyColumnAt (block : Select) (way : Place) (ref : ColumnRef) : Prop :=
  ∃ having, block.having = some having ∧ having.PlainColumnAt way ref ∧ ¬ block.NamesAggregate ref

namespace Rules

/-- The text of a column that is not the alias of an aggregate. -/
def earlyText? (block : Select) (ref : ColumnRef) : Option String :=
  if isAggregateAlias (aggregateAliases block) ref then none else some ref.toText

/-- A column can be tested earlier if it is not the alias of an aggregate. -/
theorem earlyText?_eq_some_iff {block : Select} {ref : ColumnRef} {name : String} :
    earlyText? block ref = some name ↔ ¬ block.NamesAggregate ref ∧ ref.toText = name := by
  rw [earlyText?, Option.ite_none_left_eq_some, isAggregateAlias_iff, Option.some_inj]

/-- The columns are named once each, in the order of their first occurrence. -/
theorem earlyColumns_eq (block : Select) (having : Expr) :
    earlyColumns block having =
      distinctTexts ((plainColumns having).filterMap (earlyText? block)) := by
  rw [earlyColumns]
  congr 1
  induction plainColumns having with
  | nil => rfl
  | cons ref rest ih =>
      cases halias : isAggregateAlias (aggregateAliases block) ref <;>
        simp [earlyText?, halias, ih]

/-- The texts of the columns that the `HAVING` of a block could test earlier. -/
def havingNames (block : Select) : List String :=
  block.having.elim [] (earlyColumns block)

/-- The texts of the early columns of a block, each with its way, in written order. -/
theorem exists_enumerates_havingTexts (block : Select) :
    ∃ entries texts, Enumerates (fun a b => a.key < b.key) entries texts
        (fun way name => ∃ ref, block.EarlyColumnAt way ref ∧ ref.toText = name) ∧
      havingNames block = distinctTexts texts := by
  cases hhaving : block.having with
  | none =>
      refine ⟨[], [], ⟨rfl, ?_, List.Pairwise.nil⟩, ?_⟩
      · simp [Select.EarlyColumnAt, hhaving]
      · rw [havingNames, hhaving]
        rfl
  | some having =>
      obtain ⟨entries, hentries⟩ := having.exists_enumerates_plainColumns
      refine ⟨_, _, (hentries.filterMap (earlyText? block)).congr rfl fun way name => ?_, ?_⟩
      · simp only [earlyText?_eq_some_iff, Select.EarlyColumnAt, hhaving, Option.some_inj,
          exists_eq_left', and_assoc]
      · rw [havingNames, hhaving, Option.elim_some, earlyColumns_eq]

/-- A block is reported if there is a column to name. -/
theorem havingToWhereOf_eq (block : Select) :
    havingToWhereOf block =
      if (havingNames block).isEmpty then none else some (havingRemark (havingNames block)) := by
  rw [havingToWhereOf, havingNames]
  cases block.having <;> rfl

end Rules

/-- The rule on `HAVING` has one finding for each block with a column in its `HAVING` that stands
outside aggregate calls and nested queries and is not the alias of an aggregate, and no other
findings. The finding lists the texts of these columns, each once, in the order in which they first
occur. -/
theorem havingToWhere_names_early_columns (ctx : Context) :
    ∃ names : Select → List String,
      Rules.havingToWhere.evaluate ctx =
        some (((ctx.statement.selects.map names).filter (!·.isEmpty)).map fun listed =>
          ⟨"having-to-where", .critical, Rules.havingRemark listed⟩) ∧
      ∀ block,
        (names block ≠ [] ↔ ∃ way ref, block.EarlyColumnAt way ref) ∧
        (names block).Nodup ∧
        (∀ name, name ∈ names block ↔ ∃ way ref, block.EarlyColumnAt way ref ∧ ref.toText = name) ∧
        (names block).Pairwise fun a b =>
          ∃ way ref, block.EarlyColumnAt way ref ∧ ref.toText = a ∧
            ∀ way' ref', block.EarlyColumnAt way' ref' → ref'.toText = b →
              Place.Before way way' := by
  refine ⟨Rules.havingNames, ?_, fun block => ?_⟩
  · rw [Rules.havingToWhere, Rule.ofDetails]
    have hremarks : ctx.statement.selects.filterMap Rules.havingToWhereOf =
        ((ctx.statement.selects.map Rules.havingNames).filter (!·.isEmpty)).map
          Rules.havingRemark := by
      induction ctx.statement.selects with
      | nil => rfl
      | cons block rest ih =>
          rw [List.filterMap_cons, Rules.havingToWhereOf_eq, ih]
          cases hempty : (Rules.havingNames block).isEmpty <;> simp [hempty]
    simp only [hremarks, List.map_map]
    rfl
  · obtain ⟨entries, texts, hentries, hnames⟩ := Rules.exists_enumerates_havingTexts block
    have hmem (name : String) : name ∈ Rules.havingNames block ↔
        ∃ way ref, block.EarlyColumnAt way ref ∧ ref.toText = name := by
      rw [hnames, Rules.mem_distinctTexts, ← hentries.listed_eq]
      simp [hentries.mem_iff]
    refine ⟨?_, hnames ▸ Rules.nodup_distinctTexts texts, hmem, ?_⟩
    · constructor
      · intro hne
        obtain ⟨name, hname⟩ := List.exists_mem_of_ne_nil _ hne
        obtain ⟨way, ref, href, -⟩ := (hmem name).mp hname
        exact ⟨way, ref, href⟩
      · rintro ⟨way, ref, href⟩
        exact List.ne_nil_of_mem ((hmem ref.toText).mpr ⟨way, ref, href, rfl⟩)
    · rw [hnames, ← hentries.listed_eq]
      refine (Rules.pairwise_distinctTexts hentries.inOrder).imp ?_
      rintro a b ⟨way, hway, hbefore⟩
      obtain ⟨ref, href, rfl⟩ := (hentries.mem_iff _ _).mp hway
      refine ⟨way, ref, href, rfl, fun way' ref' href' htext => ?_⟩
      exact hbefore way' ((hentries.mem_iff _ _).mpr ⟨ref', href', htext⟩)

end SqlAudit
