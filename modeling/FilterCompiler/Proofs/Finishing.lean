import FilterCompiler.Proofs.Matching
import FilterCompiler.Proofs.Shape

/-!
The last step on a query, which anchors it and checks its width. Anchoring rewrites a query boolean
by boolean: none appears and none is lost, and only those that just exclude get a clause more. So
the booleans of the query as it was given decide about the limit and about what is changed.
-/

namespace FilterCompiler

open Compilation

namespace Query

/-- The number of clauses that a boolean has once it is anchored. -/
def demand (clauses : Clauses) : Nat := clauses.length + if purelyNegative clauses then 1 else 0

/-- A query is as wide as the widest of its booleans. -/
theorem width_le_iff (q : Query) (n : Nat) :
    q.width ≤ n ↔ ∀ clauses ∈ q.booleans, clauses.length ≤ n := by
  induction q with
  | boolean clauses ih =>
      simp only [width, booleans, Nat.max_le, List.forall_mem_cons, widest_le_iff,
        mem_booleansOfAll_iff]
      apply and_congr_right
      intro _
      constructor
      · rintro hwidth inner ⟨clause, hmember, hinner⟩
        exact (ih clause hmember).mp (hwidth clause hmember) inner hinner
      · intro hlengths clause hmember
        apply (ih clause hmember).mpr
        intro inner hinner
        exact hlengths inner ⟨clause, hmember, hinner⟩
  | boosted inner boost ih => exact ih
  | _ => simp [width, booleans]

/-- Some boolean is as wide as the query, unless the width is zero. -/
theorem exists_length_eq_width {q : Query} (hwidth : 0 < q.width) :
    ∃ clauses ∈ q.booleans, clauses.length = q.width := by
  apply Classical.byContradiction
  intro hnone
  have hbound := (q.width_le_iff q.width).mp (Nat.le_refl _)
  have hless : q.width ≤ q.width - 1 := by
    apply (q.width_le_iff _).mpr
    intro clauses hmember
    have hle := hbound clauses hmember
    have hne : clauses.length ≠ q.width := fun heq => hnone ⟨clauses, hmember, heq⟩
    omega
  omega

theorem booleansOfAll_eq_flatMap (clauses : Clauses) :
    booleansOfAll clauses = clauses.flatMap fun clause => clause.2.booleans := by
  induction clauses with
  | nil => rfl
  | cons clause rest ih => simp [booleansOfAll, ih]

/-- The clause that anchors holds no boolean. -/
theorem booleansOfAll_anchor (clauses : Clauses) :
    booleansOfAll (anchor clauses) = booleansOfAll clauses := by
  unfold anchor
  split <;> rfl

/-- The booleans of an anchored query are those of the query, each of them anchored. -/
theorem anchored_booleans (q : Query) :
    q.anchored.booleans = q.booleans.map fun clauses => anchor (anchoredClauses clauses) := by
  induction q with
  | boolean clauses ih =>
      rw [anchored, booleans, booleansOfAll_anchor, booleans, List.map_cons]
      congr 1
      rw [anchoredClauses_eq_map, booleansOfAll_eq_flatMap, booleansOfAll_eq_flatMap,
        List.flatMap_map, List.map_flatMap, List.flatMap_def, List.flatMap_def]
      rw [List.map_congr_left ih]
  | boosted inner boost ih => exact ih
  | _ => rfl

/-- A boolean has somewhere to start from once it is anchored. -/
theorem purelyNegative_anchor (clauses : Clauses) : purelyNegative (anchor clauses) = false := by
  unfold anchor
  split
  · rfl
  · rename_i hpositive
    exact Bool.eq_false_iff.mpr hpositive

theorem anchored_boolean_length (clauses : Clauses) :
    (anchor (anchoredClauses clauses)).length = demand clauses := by
  rw [anchoredClauses_eq_map, anchor, purelyNegative_map, demand]
  split <;> simp

theorem anchored_boolean_occurrences (clauses : Clauses) :
    (anchor (anchoredClauses clauses)).map (·.1) =
      if purelyNegative clauses then .must :: clauses.map (·.1) else clauses.map (·.1) := by
  rw [anchoredClauses_eq_map, anchor, purelyNegative_map]
  split <;> simp

theorem purelyNegative_of_mem_anchored {q : Query} {clauses : Clauses}
    (hmember : clauses ∈ q.anchored.booleans) : purelyNegative clauses = false := by
  rw [anchored_booleans] at hmember
  obtain ⟨given, -, rfl⟩ := List.mem_map.mp hmember
  exact purelyNegative_anchor _

/-- Anchoring changes a query exactly when one of its booleans just excludes. -/
theorem anchored_eq_self_iff (q : Query) :
    q.anchored = q ↔ ∀ clauses ∈ q.booleans, purelyNegative clauses = false := by
  constructor
  · intro hself clauses hmember
    rw [← hself] at hmember
    exact purelyNegative_of_mem_anchored hmember
  · intro hpositive
    induction q with
    | boolean clauses ih =>
        simp only [booleans, List.forall_mem_cons, mem_booleansOfAll_iff] at hpositive
        obtain ⟨hclauses, hinner⟩ := hpositive
        have hmembers : (clauses.map fun clause => (clause.1, clause.2.anchored)) = clauses := by
          apply (List.map_congr_left ?_).trans (List.map_id clauses)
          intro clause hmember
          rw [ih clause hmember fun inner hin => hinner inner ⟨clause, hmember, hin⟩]
          rfl
        rw [anchored, anchoredClauses_eq_map, hmembers, anchor, hclauses]
        rfl
    | boosted inner boost ih => rw [anchored, ih hpositive]
    | _ => rfl

theorem anchored_anchored (q : Query) : q.anchored.anchored = q.anchored :=
  (anchored_eq_self_iff q.anchored).mpr fun _ => purelyNegative_of_mem_anchored

/-- The booleans of the query as it was given decide how wide it is once it is anchored. -/
theorem anchored_width_le_iff (q : Query) (n : Nat) :
    q.anchored.width ≤ n ↔ ∀ clauses ∈ q.booleans, demand clauses ≤ n := by
  rw [width_le_iff, anchored_booleans, List.forall_mem_map]
  simp only [anchored_boolean_length]

/-- Some boolean of the given query needs as many clauses as the anchored one is wide. -/
theorem exists_demand_eq_anchored_width {q : Query} (hwidth : 0 < q.anchored.width) :
    ∃ clauses ∈ q.booleans, demand clauses = q.anchored.width := by
  obtain ⟨clauses, hmember, hlength⟩ := exists_length_eq_width hwidth
  rw [anchored_booleans] at hmember
  obtain ⟨given, hgiven, rfl⟩ := List.mem_map.mp hmember
  exact ⟨given, hgiven, (anchored_boolean_length given).symm.trans hlength⟩

end Query

namespace Settings

theorem finish_eq_ok_iff {limit : Nat} {q r : Query} :
    finish ⟨limit, true⟩ q = .ok r ↔ q.anchored.width ≤ limit ∧ q.anchored = r := by
  change (if limit < q.anchored.width then Except.error _ else Except.ok q.anchored) = .ok r ↔ _
  split
  · rename_i hwide
    exact iff_of_false nofun fun hfits => Nat.not_le.mpr hwide hfits.1
  · rename_i hfits
    rw [Except.ok.injEq, and_iff_right (Nat.not_lt.mp hfits)]

theorem finish_eq_error {limit : Nat} {q : Query} (hwide : limit < q.anchored.width) :
    finish ⟨limit, true⟩ q = .error (.tooManyClauses q.anchored.width limit) := if_pos hwide

/-- With anchoring, the last step succeeds exactly when every boolean of the query, at any depth,
has room for its clauses and for one more if they all exclude. Otherwise the fault names the
greatest number of clauses that a boolean would need. A query that passes has the booleans of the
given one in their order, those that just exclude with a clause put first that must match; none of
them just excludes any more, and none is wider than the limit. It is the given query exactly when
there was none of that kind, and the step leaves it alone when taken again. -/
theorem finish_decided_by_booleans (limit : Nat) (q : Query) :
    let finish := Settings.finish ⟨limit, true⟩
    ((∃ r, finish q = .ok r) ↔ ∀ clauses ∈ q.booleans, Query.demand clauses ≤ limit) ∧
      ((¬∀ clauses ∈ q.booleans, Query.demand clauses ≤ limit) →
        ∃ count, finish q = .error (.tooManyClauses count limit) ∧
          (∃ clauses ∈ q.booleans, Query.demand clauses = count) ∧
          ∀ clauses ∈ q.booleans, Query.demand clauses ≤ count) ∧
      ∀ r, finish q = .ok r →
        (∀ clauses ∈ r.booleans, Query.purelyNegative clauses = false ∧ clauses.length ≤ limit) ∧
        (r = q ↔ ∀ clauses ∈ q.booleans, Query.purelyNegative clauses = false) ∧
        finish r = .ok r ∧
        r.booleans.map (List.map Prod.fst) = q.booleans.map fun clauses =>
          if Query.purelyNegative clauses then .must :: clauses.map (·.1)
          else clauses.map (·.1) := by
  intro finish
  have hfits := q.anchored_width_le_iff limit
  refine ⟨?_, ?_, ?_⟩
  · rw [← hfits]
    constructor
    · rintro ⟨r, hr⟩
      exact (finish_eq_ok_iff.mp hr).1
    · intro hwidth
      exact ⟨q.anchored, finish_eq_ok_iff.mpr ⟨hwidth, rfl⟩⟩
  · intro hwide
    rw [← hfits, Nat.not_le] at hwide
    exact ⟨q.anchored.width, finish_eq_error hwide,
      Query.exists_demand_eq_anchored_width (Nat.zero_lt_of_lt hwide),
      (q.anchored_width_le_iff _).mp (Nat.le_refl _)⟩
  · intro r hr
    obtain ⟨hwidth, rfl⟩ := finish_eq_ok_iff.mp hr
    refine ⟨?_, q.anchored_eq_self_iff, ?_, ?_⟩
    · intro clauses hmember
      exact ⟨Query.purelyNegative_of_mem_anchored hmember,
        (q.anchored.width_le_iff limit).mp hwidth clauses hmember⟩
    · apply finish_eq_ok_iff.mpr
      rw [q.anchored_anchored]
      exact ⟨hwidth, rfl⟩
    · rw [Query.anchored_booleans, List.map_map]
      apply List.map_congr_left
      intro clauses _
      exact Query.anchored_boolean_occurrences clauses

/-- Two clauses that both exclude, below a boost, need room for three. -/
theorem finish_decided_by_booleans_at_limit :
    let negative : Query := .boolean [(.mustNot, .ofTerm "a" "x"), (.mustNot, .ofTerm "a" "y")]
    let q : Query := .boolean [(.should, .ofTerm "b" "z"), (.must, .boosted negative .half)]
    (¬∀ clauses ∈ q.booleans, Query.demand clauses ≤ 2) ∧
      finish ⟨2, true⟩ q = .error (.tooManyClauses 3 2) ∧
      (∀ clauses ∈ q.booleans, Query.demand clauses ≤ 3) ∧
      ∃ r, finish ⟨3, true⟩ q = .ok r ∧ r ≠ q ∧ finish ⟨3, true⟩ r = .ok r := by
  intro negative q
  have hwide : ¬∀ clauses ∈ q.booleans, Query.demand clauses ≤ 2 := by decide
  have hroom : ∀ clauses ∈ q.booleans, Query.demand clauses ≤ 3 := by decide
  obtain ⟨hfits, -, hpassed⟩ := finish_decided_by_booleans 3 q
  obtain ⟨r, hr⟩ := hfits.mpr hroom
  obtain ⟨-, hself, hagain, -⟩ := hpassed r hr
  refine ⟨hwide, rfl, hroom, r, hr, ?_, hagain⟩
  rw [Ne, hself]
  decide

end Settings

end FilterCompiler
