import SqlAudit.Proofs.CosmeticRewriting
import SqlAudit.Proofs.Numerals
import SqlAudit.Proofs.WalkCoverage

/-! # Deep offsets

The rule on deep offsets compares the row offset of each query level with a threshold. An offset is
written as a numeral of any length, while the rule knows only numbers below `2 ^ 64`. It takes a
larger offset for one that is not written as a number, and so passes over the deepest offsets of
all.
-/

namespace SqlAudit

/-! ## Query levels by place -/

/-- What is selected from a list of things with distinct places, each with its place, has distinct
places. -/
theorem nodup_places_filterMap {α β : Type} {f : Place × α → Option (Place × β)}
    (hplace : ∀ entry found, f entry = some found → found.1 = entry.1) {entries : List (Place × α)}
    (hentries : (entries.map Prod.fst).Nodup) : ((entries.filterMap f).map Prod.fst).Nodup := by
  refine List.pairwise_map.mpr
    (List.pairwise_filterMap.mpr ((List.pairwise_map.mp hentries).imp ?_))
  intro a b hne found hfound found' hfound'
  rw [hplace a found hfound, hplace b found' hfound']
  exact hne

/-- The query levels that the walk visits, each with its place. -/
structure ListsLevels (s : Statement) (levels : List (Place × Query)) : Prop where
  queries_eq : levels.map Prod.snd = s.queries
  mem_iff : ∀ place q, (place, q) ∈ levels ↔ Walked (.statement s) place (.query q)
  nodup : (levels.map Prod.fst).Nodup

/-- The query level of a visit, if it is one. -/
def visitedLevel : Place × Node → Option (Place × Query)
  | (place, .query q) => some (place, q)
  | (_, .select _) => none

theorem visitedLevel_eq_some_iff {visit : Place × Node} {place : Place} {q : Query} :
    visitedLevel visit = some (place, q) ↔ visit = (place, .query q) := by
  obtain ⟨here, node⟩ := visit
  cases node <;> simp [visitedLevel]

/-- The query levels of a statement can be listed with their places. -/
theorem Statement.exists_listsLevels (s : Statement) : ∃ levels, ListsLevels s levels := by
  obtain ⟨visits, hvisits⟩ := exists_records (.statement s)
  refine ⟨visits.filterMap visitedLevel, ?_, ?_, nodup_places_filterMap ?_ hvisits.nodup⟩
  · have hnodes : visits.map Prod.snd = s.nodes := hvisits.nodes_eq
    rw [Statement.queries, ← hnodes, List.filterMap_map, List.map_filterMap]
    refine List.filterMap_congr fun visit _ => ?_
    obtain ⟨place, node⟩ := visit
    cases node <;> rfl
  · intro place q
    simp [List.mem_filterMap, visitedLevel_eq_some_iff, hvisits.mem_iff]
  · rintro visit ⟨place, q⟩ hlevel
    rw [visitedLevel_eq_some_iff.mp hlevel]

/-- A place leads to one query level only. -/
theorem ListsLevels.unique {s : Statement} {levels : List (Place × Query)}
    (hlevels : ListsLevels s levels) {place : Place} {q q' : Query} (hq : (place, q) ∈ levels)
    (hq' : (place, q') ∈ levels) :
    q = q' :=
  congrArg Prod.snd (List.inj_on_of_nodup_map hlevels.nodup hq hq' rfl)

/-! ## Offsets -/

/-- The row offset of the query level is a number literal, possibly in parentheses, whose text
denotes the number. -/
def Query.OffsetDenotes (q : Query) (n : Nat) : Prop :=
  ∃ e digits, q.offset = some e ∧ e.unnest = .literal (.number digits) ∧
    Text.IsNumeral digits.toList n

/-- An offset is known by the number that it denotes, unless the number is too large. -/
theorem Query.OffsetDenotes.offsetCount_eq_some_iff {q : Query} {n m : Nat}
    (hq : q.OffsetDenotes n) :
    q.offsetCount = some m ↔ m = n ∧ n < Text.countBound := by
  obtain ⟨e, digits, hoffset, hliteral, hnumeral⟩ := hq
  rw [offsetCount, hoffset, Option.bind_some, Expr.countLiteral,
    Expr.asLiteral_eq_some_iff.mpr hliteral]
  exact hnumeral.readCount_eq_some_iff

namespace Rules

/-- The offset of a level with its place, if it is known and above the threshold. -/
def deepLevel (most : Nat) (level : Place × Query) : Option (Place × Nat) :=
  (level.2.offsetCount.filter (· > most)).map (level.1, ·)

/-- A level is deep if its offset is a literal above the bound. -/
theorem deepLevel_eq_some_iff {most : Nat} {level : Place × Query} {place : Place} {n : Nat} :
    deepLevel most level = some (place, n) ↔
      place = level.1 ∧ level.2.offsetCount = some n ∧ most < n := by
  simp only [deepLevel, Option.map_eq_some_iff, Option.filter_eq_some_iff, decide_eq_true_eq,
    Prod.mk.injEq]
  grind

/-- The findings are those of the query levels one after the other. -/
theorem deepOffset_evaluate {ctx : Context} {levels : List (Place × Query)}
    (hlevels : ListsLevels ctx.statement levels) :
    deepOffset.evaluate ctx =
      some ((levels.filterMap (deepLevel ctx.settings.thresholds.maxOffset)).map fun level =>
        ⟨"deep-offset", .critical, offsetRemark ctx.settings.thresholds.maxOffset level.2⟩) := by
  have hoffsets (most : Nat) :
      (ctx.statement.queries.filterMap Query.offsetCount).filter (· > most) =
        (levels.filterMap (deepLevel most)).map Prod.snd := by
    rw [← hlevels.queries_eq, List.filterMap_map, List.filter_filterMap, List.map_filterMap]
    refine List.filterMap_congr fun level _ => ?_
    simp [deepLevel]
  rw [deepOffset, Rule.ofDetails]
  simp only [hoffsets, List.map_map]
  rfl

end Rules

/-- The rule on deep offsets has at most one finding for each query level and no other findings. A
level whose offset denotes `n` has one exactly if `n` is above the threshold and below `2 ^ 64` and
the level stands outside the clauses that order and page the rows of another; the finding names `n`.
-/
theorem deepOffset_finds_level_iff (ctx : Context) :
    ∃ found : List (Place × Nat),
      (found.map Prod.fst).Nodup ∧
      (∀ entry ∈ found, ∃ q, Reaches (.statement ctx.statement) entry.1 (.query q)) ∧
      Rules.deepOffset.evaluate ctx =
        some (found.map fun entry =>
          ⟨"deep-offset", .critical,
            Rules.offsetRemark ctx.settings.thresholds.maxOffset entry.2⟩) ∧
      ∀ place q n, Reaches (.statement ctx.statement) place (.query q) → q.OffsetDenotes n →
        ∀ m, (place, m) ∈ found ↔
          m = n ∧ ctx.settings.thresholds.maxOffset < n ∧ n < 2 ^ 64 ∧ place.OutsidePaging := by
  obtain ⟨levels, hlevels⟩ := ctx.statement.exists_listsLevels
  have hmem (place : Place) (m : Nat) :
      (place, m) ∈ levels.filterMap (Rules.deepLevel ctx.settings.thresholds.maxOffset) ↔
        ∃ q, (place, q) ∈ levels ∧ q.offsetCount = some m ∧
          ctx.settings.thresholds.maxOffset < m := by
    simp only [List.mem_filterMap, Prod.exists, Rules.deepLevel_eq_some_iff]
    grind
  refine ⟨_, nodup_places_filterMap ?_ hlevels.nodup, ?_, Rules.deepOffset_evaluate hlevels, ?_⟩
  · rintro level ⟨place, n⟩ hfound
    exact (Rules.deepLevel_eq_some_iff.mp hfound).1
  · rintro ⟨place, m⟩ hfound
    obtain ⟨q, hlevel, -⟩ := (hmem place m).mp hfound
    exact ⟨q, ((hlevels.mem_iff place q).mp hlevel).1⟩
  · intro place q n hreach hn m
    rw [hmem]
    constructor
    · rintro ⟨q', hlevel, hcount, hdeep⟩
      obtain ⟨hreach', houtside⟩ := (hlevels.mem_iff place q').mp hlevel
      -- Both levels stand at the place, so they are the same.
      obtain rfl := hlevels.unique hlevel ((hlevels.mem_iff place q).mpr ⟨hreach, houtside⟩)
      obtain ⟨rfl, hbound⟩ := hn.offsetCount_eq_some_iff.mp hcount
      exact ⟨rfl, hdeep, hbound, houtside⟩
    · rintro ⟨rfl, hdeep, hbound, houtside⟩
      exact ⟨q, (hlevels.mem_iff place q).mpr ⟨hreach, houtside⟩,
        hn.offsetCount_eq_some_iff.mpr ⟨rfl, hbound⟩, hdeep⟩

/-- `SELECT a FROM t OFFSET ..`, possibly behind a `WITH` clause. -/
def pagedQuery (ctes : List Cte) (offset : Expr) : Query :=
  ⟨ctes, .select ⟨false, [.expr (.column ⟨none, "a"⟩) none], [⟨.table ⟨["t"]⟩ none, []⟩], none,
    [], none⟩, [], none, some offset⟩

/-- `SELECT a FROM t OFFSET (01001)`. -/
def deepQuery : Query :=
  pagedQuery [] (.nested (.literal (.number "01001")))

/-- `WITH c AS (SELECT a FROM t OFFSET (01001)) SELECT a FROM t OFFSET 1000`. -/
def twoOffsets : Query :=
  pagedQuery [⟨"c", deepQuery⟩] (.literal (.number "1000"))

/-- With the threshold of 1000, the offset 1000 of the outer level is not found and the offset 1001
of the level in the `WITH` clause is. -/
theorem deepOffset_finds_level_iff_boundary :
    (Reaches (.statement (.query twoOffsets)) [.source] (.query twoOffsets) ∧
      twoOffsets.OffsetDenotes 1000) ∧
    (Reaches (.statement (.query twoOffsets)) [.source, .cte 0] (.query deepQuery) ∧
      deepQuery.OffsetDenotes 1001) ∧
    ∃ found : List (Place × Nat),
      Rules.deepOffset.evaluate ⟨.query twoOffsets, .empty, {}⟩ =
        some (found.map fun entry => ⟨"deep-offset", .critical, Rules.offsetRemark 1000 entry.2⟩) ∧
      (∀ m, ([.source], m) ∉ found) ∧ ([.source, .cte 0], 1001) ∈ found := by
  have houter : Reaches (.statement (.query twoOffsets)) [.source] (.query twoOffsets) :=
    .inside (c := .query twoOffsets) (by simp [Part.clauses, Statement.clauses]) (.here _)
  have hinner : Reaches (.statement (.query twoOffsets)) [.source, .cte 0] (.query deepQuery) :=
    houter.trans (.inside (c := .query deepQuery)
      (by simp [Part.clauses, twoOffsets, pagedQuery, eachClause])
      (.here _))
  have hthousand : twoOffsets.OffsetDenotes 1000 := ⟨_, _, rfl, rfl, by decide +kernel⟩
  have hdeep : deepQuery.OffsetDenotes 1001 := ⟨_, _, rfl, rfl, by decide +kernel⟩
  obtain ⟨found, -, -, hevaluate, hfound⟩ :=
    deepOffset_finds_level_iff ⟨.query twoOffsets, .empty, {}⟩
  refine ⟨⟨houter, hthousand⟩, ⟨hinner, hdeep⟩, found, hevaluate, fun m hm => ?_, ?_⟩
  · obtain ⟨-, habove, -⟩ := (hfound _ _ _ houter hthousand m).mp hm
    exact absurd habove (by decide)
  · exact (hfound _ _ _ hinner hdeep 1001).mpr
      ⟨rfl, by decide, by decide, by simp [Place.OutsidePaging, Slot.isPaging]⟩

/-- `SELECT a FROM t OFFSET 18446744073709551616` has no finding, though its offset is above the
threshold. -/
theorem offset_beyond_bound_not_found :
    (pagedQuery [] (.literal (.number "18446744073709551616"))).OffsetDenotes (2 ^ 64) ∧
    ({} : Settings).thresholds.maxOffset < 2 ^ 64 ∧
    ∀ catalog, Rules.deepOffset.evaluate
      ⟨.query (pagedQuery [] (.literal (.number "18446744073709551616"))), catalog, {}⟩ =
        some [] := by
  refine ⟨⟨_, _, rfl, rfl, by decide +kernel⟩, by decide, fun catalog => ?_⟩
  rfl

end SqlAudit
