import FilterCompiler.Proofs.Limit

/-!
The leaves of queries and filters. What combines the answers to the leaves of a filter, from the
groups of its normal form to the anchors of the query, asks no question of its own except the one
for everything. So every leaf of a compiled query can be traced back to a leaf of the filter.
-/

namespace FilterCompiler

namespace Query

mutual

/-- What a query is made of: questions about single fields, and about everything. -/
def leaves : Query → List Query
  | .boolean clauses => leavesOfAll clauses
  | .boosted inner _ => inner.leaves
  | .term t => [.term t]
  | .range r => [.range r]
  | .phrase p => [.phrase p]
  | .stem t => [.stem t]
  | .wildcard t => [.wildcard t]
  | .fuzzy t similarity => [.fuzzy t similarity]
  | .everything => [.everything]

def leavesOfAll : List (Occurrence × Query) → List Query
  | [] => []
  | (_, q) :: rest => q.leaves ++ leavesOfAll rest

end

/-- The field that a leaf asks about. -/
def field? : Query → Option String
  | .term t | .stem t | .wildcard t | .fuzzy t _ => some t.field
  | .range r => some r.field
  | .phrase p => some p.field
  | .boolean _ | .boosted _ _ | .everything => none

def EveryLeaf (p : Query → Prop) (q : Query) : Prop := ∀ leaf ∈ q.leaves, p leaf

variable {p : Query → Prop}

theorem mem_leavesOfAll_iff (clauses : Clauses) (leaf : Query) :
    leaf ∈ leavesOfAll clauses ↔ ∃ clause ∈ clauses, leaf ∈ clause.2.leaves := by
  induction clauses with
  | nil => simp [leavesOfAll]
  | cons clause rest ih => simp [leavesOfAll, ih]

@[simp] theorem everyLeaf_boolean (clauses : Clauses) :
    (boolean clauses).EveryLeaf p ↔ ∀ clause ∈ clauses, clause.2.EveryLeaf p := by
  simp only [EveryLeaf, leaves, mem_leavesOfAll_iff]
  constructor
  · intro h clause hmember leaf hleaf
    exact h leaf ⟨clause, hmember, hleaf⟩
  · rintro h leaf ⟨clause, hmember, hleaf⟩
    exact h clause hmember leaf hleaf

@[simp] theorem everyLeaf_boosted (inner : Query) (boost : Weight) :
    (boosted inner boost).EveryLeaf p ↔ inner.EveryLeaf p := Iff.rfl

theorem everyLeaf_nothing : nothing.EveryLeaf p := by simp [nothing]

/-- A question about a field is a leaf of its own. -/
theorem everyLeaf_of_field? {q : Query} {field : String} (hfield : q.field? = some field)
    (hq : p q) : q.EveryLeaf p := by
  cases q <;> simp_all [EveryLeaf, leaves, field?]

/-- Anchoring asks for everything and for nothing else that was not asked for. -/
theorem mem_leaves_of_anchored {q leaf : Query} (h : leaf ∈ q.anchored.leaves) :
    leaf = .everything ∨ leaf ∈ q.leaves := by
  induction q with
  | boolean clauses ih =>
      simp only [anchored, leaves, mem_leavesOfAll_iff, anchor] at h ⊢
      obtain ⟨clause, hmember, hleaf⟩ := h
      have hclauses : clause = (.must, .everything) ∨ clause ∈ anchoredClauses clauses := by
        split at hmember
        · exact List.mem_cons.mp hmember
        · exact Or.inr hmember
      rcases hclauses with rfl | hclause
      · exact Or.inl (List.mem_singleton.mp hleaf)
      · rw [anchoredClauses_eq_map] at hclause
        obtain ⟨source, hsource, rfl⟩ := List.mem_map.mp hclause
        rcases ih source hsource hleaf with heverything | hsourceLeaf
        · exact Or.inl heverything
        · exact Or.inr ⟨source, hsource, hsourceLeaf⟩
  | boosted inner boost ih => exact ih h
  | _ => exact Or.inr h

end Query

namespace Filter

mutual

/-- The leaves of a filter, from the left and without their negations. -/
def leaves : Filter → List Filter
  | .all members | .any members => leavesOfAll members
  | .not inner => inner.leaves
  | .condition c => [.condition c]
  | .past p => [.past p]
  | .change c => [.change c]

def leavesOfAll : List Filter → List Filter
  | [] => []
  | f :: fs => f.leaves ++ leavesOfAll fs

end

theorem leavesOfAll_eq_flatMap (fs : List Filter) : leavesOfAll fs = fs.flatMap leaves := by
  induction fs with
  | nil => rfl
  | cons f fs ih => simp [leavesOfAll, ih]

theorem isLeaf_of_mem_leaves {f g : Filter} (h : g ∈ f.leaves) : g.isLeaf = true := by
  induction f with
  | not inner ih => exact ih h
  | all members ih | any members ih =>
      rw [leaves, leavesOfAll_eq_flatMap] at h
      obtain ⟨f, hmember, hleaf⟩ := List.mem_flatMap.mp h
      exact ih f hmember hleaf
  | _ =>
      obtain rfl := List.mem_singleton.mp h
      rfl

/-- Normal forms have the leaves of what they are made from. -/
theorem normalizeUnder_leaves (negated : Bool) (f : Filter) :
    (f.normalizeUnder negated).leaves = f.leaves := by
  induction f generalizing negated with
  | not inner ih => exact ih _
  | all members ih | any members ih =>
      have hmembers : members.flatMap (fun f => (f.normalizeUnder negated).leaves) =
          members.flatMap leaves := by
        rw [List.flatMap_def, List.flatMap_def, List.map_congr_left]
        intro f hmember
        exact ih f hmember negated
      cases negated <;>
        simp [normalizeUnder, leaves, leavesOfAll_eq_flatMap, List.flatMap_map, hmembers]
  | _ => cases negated <;> rfl

/-- Some leaf is a question about the past. -/
def AsksHistory (f : Filter) : Prop :=
  (∃ p, .past p ∈ f.leaves) ∨ ∃ c, .change c ∈ f.leaves

end Filter

namespace Outcome

theorem toQuery_leaves (o : Outcome) : o.toQuery.leaves = o.query.leaves := by
  unfold toQuery
  split <;> simp [Query.excluding, Query.leaves, Query.leavesOfAll]

theorem mem_leaves_of_conjunction {os : List Outcome} {leaf : Query}
    (h : leaf ∈ (conjunction os).query.leaves) : ∃ o ∈ os, leaf ∈ o.query.leaves := by
  obtain ⟨clause, hclause, hleaf⟩ := (Query.mem_leavesOfAll_iff _ leaf).mp h
  obtain ⟨o, hmember, rfl⟩ := List.mem_map.mp hclause
  exact ⟨o, hmember, hleaf⟩

theorem mem_leaves_of_disjunction {os : List Outcome} {leaf : Query}
    (h : leaf ∈ (disjunction os).query.leaves) : ∃ o ∈ os, leaf ∈ o.query.leaves := by
  obtain ⟨clause, hclause, hleaf⟩ := (Query.mem_leavesOfAll_iff _ leaf).mp h
  obtain ⟨o, hmember, rfl⟩ := List.mem_map.mp hclause
  exact ⟨o, hmember, toQuery_leaves o ▸ hleaf⟩

theorem mem_leaves_of_merge {os : List Outcome} {leaf : Query}
    (h : leaf ∈ (merge os).query.leaves) : ∃ o ∈ os, leaf ∈ o.query.leaves := by
  have hkept : ∃ o ∈ os.filter (!·.isNothing), leaf ∈ o.query.leaves := by
    unfold merge at h
    split at h
    · cases h
    · rename_i o heq
      exact ⟨o, by simp [heq], h⟩
    · exact mem_leaves_of_disjunction h
  obtain ⟨o, hmember, hleaf⟩ := hkept
  exact ⟨o, (List.mem_filter.mp hmember).1, hleaf⟩

end Outcome

namespace Environment

theorem mem_leaves_of_members {e : Environment} {caller : Caller} {members : List Filter}
    {leaf : Query}
    (ih : ∀ f ∈ members, leaf ∈ (e.outcome caller f).query.leaves →
      ∃ g ∈ f.leaves, leaf ∈ (e.outcome caller g).query.leaves)
    (h : ∃ o ∈ members.map (e.outcome caller), leaf ∈ o.query.leaves) :
    ∃ g ∈ Filter.leavesOfAll members, leaf ∈ (e.outcome caller g).query.leaves := by
  obtain ⟨o, ho, hleaf⟩ := h
  obtain ⟨f, hf, rfl⟩ := List.mem_map.mp ho
  obtain ⟨g, hg, hsource⟩ := ih f hf hleaf
  refine ⟨g, ?_, hsource⟩
  rw [Filter.leavesOfAll_eq_flatMap]
  exact List.mem_flatMap.mpr ⟨f, hf, hg⟩

/-- Groups and negations ask nothing of their own. -/
theorem mem_leaves_of_outcome {e : Environment} {caller : Caller} {f : Filter} {leaf : Query}
    (h : leaf ∈ (e.outcome caller f).query.leaves) :
    ∃ g ∈ f.leaves, leaf ∈ (e.outcome caller g).query.leaves := by
  induction f with
  | not inner ih =>
      rw [outcome, Outcome.complement_query] at h
      exact ih h
  | all members ih =>
      rw [outcome, outcomes_eq_map] at h
      exact mem_leaves_of_members ih (Outcome.mem_leaves_of_conjunction h)
  | any members ih =>
      rw [outcome, outcomes_eq_map] at h
      exact mem_leaves_of_members ih (Outcome.mem_leaves_of_disjunction h)
  | condition c => exact ⟨.condition c, List.mem_singleton_self _, h⟩
  | past p => exact ⟨.past p, List.mem_singleton_self _, h⟩
  | change c => exact ⟨.change c, List.mem_singleton_self _, h⟩

/-- What a compiled query asks for, except for everything, was answered
for some leaf of the filter. -/
theorem mem_leaves_of_compile {e : Environment} {s : Settings} {caller : Caller} {f : Filter}
    {q leaf : Query} (hq : e.compile s caller f = .ok q) (hleaf : leaf ∈ q.leaves) :
    leaf = .everything ∨ ∃ g ∈ f.leaves, leaf ∈ (e.outcome caller g).query.leaves := by
  have hdraft : leaf = .everything ∨ leaf ∈ (e.outcome caller f.normalize).query.leaves := by
    rw [eq_unlimited_of_compile hq, unlimited] at hleaf
    rw [← Outcome.toQuery_leaves]
    split at hleaf
    · exact Query.mem_leaves_of_anchored hleaf
    · exact Or.inr hleaf
  rcases hdraft with heverything | hanswered
  · exact Or.inl heverything
  · obtain ⟨g, hg, hsource⟩ := mem_leaves_of_outcome hanswered
    rw [Filter.normalize, Filter.normalizeUnder_leaves] at hg
    exact Or.inr ⟨g, hg, hsource⟩

end Environment

end FilterCompiler
