import SqlAudit.Proofs.Place

/-! # Enumerations by place

A walk lists what it meets without saying where. An enumeration gives each listed thing its place
and says which things at which places are listed, so that "each once and nothing else" can be
stated. Walks go through the clauses of a part one after the other, and so do the enumerations of
what they list.
-/

namespace SqlAudit

/-! ## Lists of clauses -/

/-- The clauses of the first element, then those of the rest one number further. -/
theorem eachClause_cons {α : Type} (f : Nat → α → List (Slot × Part)) (x : α) (rest : List α) :
    eachClause f (x :: rest) = f 0 x ++ eachClause (fun i => f (i + 1)) rest := by
  simp [eachClause, List.mapIdx_cons]

/-- The clauses of a list stand in order if those of each entry do, and those of an earlier entry
come before those of a later one. -/
theorem pairwise_eachClause {α : Type} {R : Slot × Part → Slot × Part → Prop}
    {f : Nat → α → List (Slot × Part)} (hentry : ∀ i x, (f i x).Pairwise R)
    (hentries : ∀ i j x y, i < j → ∀ a ∈ f i x, ∀ b ∈ f j y, R a b) (entries : List α) :
    (eachClause f entries).Pairwise R := by
  -- The positions of the remaining entries shift by one, and the clauses with them.
  induction entries generalizing f with
  | nil => exact List.Pairwise.nil
  | cons x rest ih =>
      rw [eachClause_cons]
      refine List.pairwise_append.mpr ⟨hentry 0 x, ih (fun i => hentry (i + 1)) ?_, ?_⟩
      · intro i j a b hij
        exact hentries (i + 1) (j + 1) a b (by omega)
      · intro a ha b hb
        obtain ⟨i, y, -, hb⟩ := mem_eachClause.mp hb
        exact hentries 0 (i + 1) x y (by omega) a ha b hb

/-- What the clauses of a list contribute does not depend on the positions of its entries. -/
theorem flatMap_eachClause {α β : Type} {found : Slot × Part → List β}
    {f : Nat → α → List (Slot × Part)} {h : α → List β}
    (hentry : ∀ i x, (f i x).flatMap found = h x) (entries : List α) :
    (eachClause f entries).flatMap found = entries.flatMap h := by
  induction entries generalizing f with
  | nil => rfl
  | cons x rest ih =>
      rw [eachClause_cons, List.flatMap_append, List.flatMap_cons, hentry,
        ih (fun i => hentry (i + 1))]

/-! ## Enumerations -/

/-- The entries give each listed thing its place: they hold exactly what is located, and they stand
in the order of places that comes from an order of slots. -/
structure Enumerates {α : Type} (earlier : Slot → Slot → Prop) (entries : List (Place × α))
    (listed : List α) (located : Place → α → Prop) : Prop where
  listed_eq : entries.map Prod.snd = listed
  mem_iff : ∀ place x, (place, x) ∈ entries ↔ located place x
  inOrder : entries.Pairwise fun a b => List.Lex earlier a.1 b.1

/-- What is located behind one of the clauses, at a place that begins with the slot of the clause.
-/
def Behind {α : Type} (located : Slot × Part → Place → α → Prop) (clauses : List (Slot × Part))
    (place : Place) (x : α) : Prop :=
  ∃ slot c rest, (slot, c) ∈ clauses ∧ place = slot :: rest ∧ located (slot, c) rest x

namespace Enumerates

variable {α : Type} {earlier : Slot → Slot → Prop}

theorem congr {entries : List (Place × α)} {listed listed' : List α}
    {located located' : Place → α → Prop} (hentries : Enumerates earlier entries listed located)
    (hlisted : listed = listed') (hlocated : ∀ place x, located place x ↔ located' place x) :
    Enumerates earlier entries listed' located' :=
  ⟨hentries.listed_eq.trans hlisted, fun place x =>
    (hentries.mem_iff place x).trans (hlocated place x), hentries.inOrder⟩

/-- Two enumerations one after the other, if all places of the first come before those of the
second. -/
theorem append {first second : List (Place × α)} {listed listed' : List α}
    {located located' : Place → α → Prop} (hfirst : Enumerates earlier first listed located)
    (hsecond : Enumerates earlier second listed' located')
    (hbefore : ∀ place x place' x', located place x → located' place' x' →
      List.Lex earlier place place') :
    Enumerates earlier (first ++ second) (listed ++ listed')
      (fun place x => located place x ∨ located' place x) := by
  refine ⟨?_, ?_, List.pairwise_append.mpr ⟨hfirst.inOrder, hsecond.inOrder, ?_⟩⟩
  · rw [List.map_append, hfirst.listed_eq, hsecond.listed_eq]
  · intro place x
    rw [List.mem_append, hfirst.mem_iff, hsecond.mem_iff]
  · rintro ⟨place, x⟩ hentry ⟨place', x'⟩ hentry'
    exact hbefore place x place' x' ((hfirst.mem_iff _ _).mp hentry)
      ((hsecond.mem_iff _ _).mp hentry')

theorem map {β : Type} {entries : List (Place × α)} {listed : List α} {located : Place → α → Prop}
    (hentries : Enumerates earlier entries listed located) (f : α → β) :
    Enumerates earlier (entries.map fun entry => (entry.1, f entry.2)) (listed.map f)
      (fun place y => ∃ x, located place x ∧ f x = y) := by
  refine ⟨?_, ?_, List.pairwise_map.mpr hentries.inOrder⟩
  · rw [← hentries.listed_eq, List.map_map, List.map_map]
    rfl
  · intro place y
    simp only [List.mem_map, Prod.exists, Prod.mk.injEq, hentries.mem_iff]
    constructor
    · rintro ⟨_, x, hx, rfl, rfl⟩
      exact ⟨x, hx, rfl⟩
    · rintro ⟨x, hx, rfl⟩
      exact ⟨place, x, hx, rfl, rfl⟩

/-- What is selected from the listed things keeps its place. -/
theorem filterMap {β : Type} {entries : List (Place × α)} {listed : List α}
    {located : Place → α → Prop} (hentries : Enumerates earlier entries listed located)
    (f : α → Option β) :
    Enumerates earlier (entries.filterMap fun entry => (f entry.2).map (entry.1, ·))
      (listed.filterMap f)
      (fun place y => ∃ x, located place x ∧ f x = some y) := by
  refine ⟨?_, ?_, List.pairwise_filterMap.mpr (hentries.inOrder.imp ?_)⟩
  · rw [← hentries.listed_eq, List.filterMap_map, List.map_filterMap]
    refine congrArg (List.filterMap · entries) (funext fun entry => ?_)
    cases hfound : f entry.2 <;> simp [hfound]
  · intro place y
    simp only [List.mem_filterMap, Prod.exists, Option.map_eq_some_iff, Prod.mk.injEq,
      hentries.mem_iff]
    constructor
    · rintro ⟨_, x, hx, _, hfound, rfl, rfl⟩
      exact ⟨x, hx, hfound⟩
    · rintro ⟨x, hx, hfound⟩
      exact ⟨place, x, hx, y, hfound, rfl, rfl⟩
  · intro a b hbefore a' ha b' hb
    obtain ⟨_, -, rfl⟩ := Option.map_eq_some_iff.mp ha
    obtain ⟨_, -, rfl⟩ := Option.map_eq_some_iff.mp hb
    exact hbefore

/-- What is listed first is the thing before which no other is located. -/
theorem head?_eq_some_iff {entries : List (Place × α)} {listed : List α}
    {located : Place → α → Prop}
    (hasymm : ∀ {slot slot'}, earlier slot slot' → ¬ earlier slot' slot)
    (hentries : Enumerates earlier entries listed located) {x : α} :
    listed.head? = some x ↔
      ∃ place, located place x ∧ ∀ place' y, located place' y →
        ¬ List.Lex earlier place' place := by
  have hirrefl (slot : Slot) : ¬ earlier slot slot := fun hself => hasymm hself hself
  simp only [← hentries.listed_eq, ← hentries.mem_iff]
  cases entries with
  | nil => simp
  | cons first rest =>
      obtain ⟨hfirst, -⟩ := List.pairwise_cons.mp hentries.inOrder
      simp only [List.map_cons, List.head?_cons, Option.some_inj]
      constructor
      · rintro rfl
        refine ⟨first.1, List.mem_cons_self, fun place' y hy => ?_⟩
        rcases List.mem_cons.mp hy with rfl | hrest
        · exact List.lex_irrefl hirrefl _
        · exact List.lex_asymm hasymm (hfirst _ hrest)
      · rintro ⟨place, hx, hleast⟩
        rcases List.mem_cons.mp hx with rfl | hrest
        · rfl
        · exact absurd (hfirst _ hrest) (hleast first.1 first.2 List.mem_cons_self)

/-- A thing that may be absent, at its one place. -/
theorem atPlace (place : Place) {listed : List α} (hone : listed.length ≤ 1) :
    Enumerates earlier (listed.map (place, ·)) listed
      (fun place' x => place' = place ∧ x ∈ listed) := by
  match listed with
  | [] => exact ⟨rfl, by simp, List.Pairwise.nil⟩
  | [x] => exact ⟨rfl, by simp, List.pairwise_singleton _ _⟩

/-- The slot of a clause is put in front of the places behind it. -/
theorem behind {entries : List (Place × α)} {listed : List α}
    {located : Slot × Part → Place → α → Prop} {clause : Slot × Part}
    (hentries : Enumerates earlier entries listed (located clause)) :
    Enumerates earlier (entries.map fun entry => (clause.1 :: entry.1, entry.2)) listed
      (Behind located [clause]) := by
  refine ⟨?_, ?_, hentries.inOrder.map _ fun a b hbefore => List.Lex.cons hbefore⟩
  · rw [← hentries.listed_eq, List.map_map]
    rfl
  · intro place x
    simp only [Behind, List.mem_map, Prod.mk.injEq, Prod.exists, hentries.mem_iff,
      List.mem_singleton]
    constructor
    · rintro ⟨rest, _, hlocated, rfl, rfl⟩
      exact ⟨clause.1, clause.2, rest, rfl, rfl, hlocated⟩
    · rintro ⟨_, _, rest, rfl, rfl, hlocated⟩
      exact ⟨rest, x, hlocated, rfl, rfl⟩

/-- Clauses in order are enumerated one after the other. -/
theorem exists_clauses {found : Slot × Part → List α} {located : Slot × Part → Place → α → Prop}
    {clauses : List (Slot × Part)}
    (hclauses : ∀ clause ∈ clauses, ∃ entries,
      Enumerates earlier entries (found clause) (located clause))
    (hinOrder : clauses.Pairwise fun a b => earlier a.1 b.1) :
    ∃ entries, Enumerates earlier entries (clauses.flatMap found) (Behind located clauses) := by
  induction clauses with
  | nil => exact ⟨[], rfl, by simp [Behind], List.Pairwise.nil⟩
  | cons clause rest ih =>
      obtain ⟨hfirst, hrest⟩ := List.pairwise_cons.mp hinOrder
      obtain ⟨hclause, hlaterClauses⟩ := List.forall_mem_cons.mp hclauses
      obtain ⟨entries, hentries⟩ := hclause
      obtain ⟨later, hlater⟩ := ih hlaterClauses hrest
      refine ⟨_, (hentries.behind.append hlater ?_).congr rfl fun place x => ?_⟩
      · -- Places behind an earlier clause begin with an earlier slot.
        rintro _ _ _ _ ⟨_, _, _, hmem, rfl, -⟩ ⟨_, _, _, hmem', rfl, -⟩
        cases List.mem_singleton.mp hmem
        exact List.Lex.rel (hfirst _ hmem')
      · simp only [Behind, List.mem_cons, List.not_mem_nil, or_false, or_and_right, exists_or]

/-- No place is listed twice. -/
theorem nodup {entries : List (Place × α)} {listed : List α} {located : Place → α → Prop}
    (hirrefl : ∀ slot, ¬ earlier slot slot) (hentries : Enumerates earlier entries listed located) :
    (entries.map Prod.fst).Nodup := by
  refine List.pairwise_map.mpr (hentries.inOrder.imp ?_)
  intro a b hbefore heq
  exact List.lex_irrefl hirrefl b.1 (heq ▸ hbefore)

end Enumerates

end SqlAudit
