import FilterCompiler.Proofs.Trees

/-!
The limit on the number of clauses. It is checked twice, on the groups of the filter before anything
is answered and on the booleans of the finished query. The first check is only there to fail early:
every member of a group becomes one clause of one boolean, and no later step drops a clause, so a
group that is too wide for the first check makes a query that is too wide for the second.
-/

namespace FilterCompiler

open Compilation

namespace Filter

mutual

/-- The number of members of the largest group, at any depth. -/
def breadth : Filter → Nat
  | .all members | .any members => max members.length (broadest members)
  | .not inner => inner.breadth
  | .condition _ | .past _ | .change _ => 0

def broadest : List Filter → Nat
  | [] => 0
  | f :: fs => max f.breadth (broadest fs)

end

theorem broadest_le_iff (fs : List Filter) (n : Nat) :
    broadest fs ≤ n ↔ ∀ f ∈ fs, f.breadth ≤ n := by
  induction fs with
  | nil => simp [broadest]
  | cons f fs ih => simp only [broadest, List.forall_mem_cons, Nat.max_le, ih]

theorem normalizeUnder_isNormal (negated : Bool) (f : Filter) :
    (f.normalizeUnder negated).isNormal = true := by
  induction f generalizing negated with
  | not inner ih => exact ih _
  | all members ih | any members ih =>
      cases negated <;> simpa [normalizeUnder, isNormal] using fun f hmember => ih f hmember _
  | _ => cases negated <;> rfl

/-- The check of a filter in normal form is about the size of its groups and nothing else. -/
theorem check_eq_ok_iff {f : Filter} (hnormal : f.isNormal = true) (limit : Nat) :
    f.check limit = .ok () ↔ f.breadth ≤ limit := by
  induction f with
  | not inner =>
      cases inner <;> simp_all [check, isNormal, isLeaf, breadth]
  | all members ih | any members ih =>
      have hmembers : ∀ f ∈ members, f.isNormal = true := by simpa [isNormal] using hnormal
      have hchecks : checkAll limit members = .ok () ↔ broadest members ≤ limit := by
        rw [checkAll_eq_ok_iff, broadest_le_iff]
        constructor
        · intro h f hmember
          exact (ih f hmember (hmembers f hmember)).mp (h f hmember)
        · intro h f hmember
          exact (ih f hmember (hmembers f hmember)).mpr (h f hmember)
      simp only [check, breadth, Nat.max_le]
      split
      · rename_i hwide
        simp only [reduceCtorEq, false_iff]
        omega
      · rename_i hnarrow
        rw [hchecks]
        omega
  | _ => simp [check, breadth]

/-- No negation of a group is left in a filter in normal form, so the check can only
fail on a group that is too large. -/
theorem check_eq_error {f : Filter} {limit : Nat} {fault : Fault} (hnormal : f.isNormal = true)
    (h : f.check limit = .error fault) : ∃ count, fault = .tooManyClauses count limit := by
  induction f with
  | not inner =>
      have hleaf : inner.isLeaf = true := hnormal
      simp [check, hleaf] at h
  | all members ih | any members ih =>
      have hmembers : ∀ f ∈ members, f.isNormal = true := by simpa [isNormal] using hnormal
      simp only [check] at h
      split at h
      · exact ⟨members.length, (Except.error.inj h).symm⟩
      · obtain ⟨f, hmember, hfault⟩ := check_of_checkAll_eq_error h
        exact ih f hmember (hmembers f hmember) hfault
  | _ => simp [check] at h

end Filter

namespace Query

theorem length_le_anchor_length (clauses : Clauses) : clauses.length ≤ (anchor clauses).length := by
  unfold anchor
  split <;> simp

theorem widest_le_anchor_widest (clauses : Clauses) : widest clauses ≤ widest (anchor clauses) := by
  unfold anchor
  split
  · exact Nat.le_max_right _ _
  · exact Nat.le_refl _

/-- Anchoring adds clauses and takes none away. -/
theorem width_le_anchored_width (q : Query) : q.width ≤ q.anchored.width := by
  induction q with
  | boolean clauses ih =>
      have hlength := length_le_anchor_length (anchoredClauses clauses)
      have hwidest : widest clauses ≤ widest (anchor (anchoredClauses clauses)) := by
        refine Nat.le_trans ?_ (widest_le_anchor_widest _)
        apply (widest_le_iff clauses _).mpr
        intro clause hmember
        have hanchored : (clause.1, clause.2.anchored) ∈ anchoredClauses clauses := by
          rw [anchoredClauses_eq_map]
          exact List.mem_map_of_mem hmember
        exact Nat.le_trans (ih clause hmember) (width_le_widest hanchored)
      rw [anchoredClauses_eq_map, List.length_map, ← anchoredClauses_eq_map] at hlength
      simp only [width, anchored]
      omega
  | boosted inner boost ih => exact ih
  | _ => exact Nat.le_refl _

end Query

namespace Outcome

theorem query_width_le_toQuery_width (o : Outcome) : o.query.width ≤ o.toQuery.width := by
  unfold toQuery
  split
  · exact Nat.le_trans (Nat.le_max_left _ _) (Nat.le_max_right _ _)
  · exact Nat.le_refl _

@[simp] theorem complement_query (o : Outcome) : o.complement.query = o.query := by
  unfold complement
  split <;> rfl

end Outcome

namespace Environment

/-- Every member of a group becomes a clause, which is at least as wide as the member. -/
theorem group_breadth_le_width (members : List Filter) (clause : Filter → Occurrence × Query)
    (hclause : ∀ f ∈ members, f.breadth ≤ (clause f).2.width) :
    max members.length (Filter.broadest members) ≤ (Query.boolean (members.map clause)).width := by
  rw [Query.width, List.length_map]
  refine Nat.max_le.mpr ⟨Nat.le_max_left _ _, Nat.le_trans ?_ (Nat.le_max_right _ _)⟩
  apply (Filter.broadest_le_iff members _).mpr
  intro f hmember
  exact Nat.le_trans (hclause f hmember) (Query.width_le_widest (List.mem_map_of_mem hmember))

/-- The query of a filter is at least as wide as the filter. -/
theorem breadth_le_outcome_width (e : Environment) (caller : Caller) (f : Filter) :
    f.breadth ≤ (e.outcome caller f).query.width := by
  induction f with
  | not inner ih => simpa [outcome, Filter.breadth] using ih
  | all members ih =>
      simp only [outcome, outcomes_eq_map, Outcome.conjunction, List.map_map]
      exact group_breadth_le_width members _ ih
  | any members ih =>
      simp only [outcome, outcomes_eq_map, Outcome.disjunction, List.map_map]
      apply group_breadth_le_width members
      intro f hmember
      exact Nat.le_trans (ih f hmember) (Outcome.query_width_le_toQuery_width _)
  | _ => exact Nat.zero_le _

/-- The query of a filter as if there were no limit, anchored if the settings say so. -/
def unlimited (e : Environment) (s : Settings) (caller : Caller) (f : Filter) : Query :=
  let q := (e.outcome caller f.normalize).toQuery
  if s.anchors then q.anchored else q

theorem breadth_le_unlimited_width (e : Environment) (s : Settings) (caller : Caller) (f : Filter) :
    f.normalize.breadth ≤ (e.unlimited s caller f).width := by
  have hdraft : f.normalize.breadth ≤ (e.outcome caller f.normalize).toQuery.width :=
    Nat.le_trans (e.breadth_le_outcome_width caller f.normalize)
      (Outcome.query_width_le_toQuery_width _)
  unfold unlimited
  split
  · exact Nat.le_trans hdraft (Query.width_le_anchored_width _)
  · exact hdraft

/-- A limit that no group exceeds does not change the draft. -/
theorem draft_eq_ok (e : Environment) (caller : Caller) (f : Filter) {limit : Nat}
    (hbreadth : f.normalize.breadth ≤ limit) :
    e.draft limit caller f.normalize = .ok (e.outcome caller f.normalize).toQuery := by
  have hcheck :=
    (Filter.check_eq_ok_iff (Filter.normalizeUnder_isNormal false f) limit).mpr hbreadth
  simp only [draft, visit, Filter.normalize, hcheck, Except.map]

theorem draft_eq_error (e : Environment) (caller : Caller) (f : Filter) {limit : Nat}
    (hbreadth : limit < f.normalize.breadth) :
    ∃ count, e.draft limit caller f.normalize = .error (.tooManyClauses count limit) := by
  have hnormal : f.normalize.isNormal = true := Filter.normalizeUnder_isNormal false f
  cases hcheck : f.normalize.check limit with
  | ok =>
      have hfits := (Filter.check_eq_ok_iff hnormal limit).mp hcheck
      omega
  | error fault =>
      obtain ⟨count, rfl⟩ := Filter.check_eq_error hnormal hcheck
      exact ⟨count, by simp only [draft, visit, hcheck, Except.map]⟩

/-- Compilation succeeds when the query fits, and otherwise blames the filter as it was given. -/
theorem compile_eq (e : Environment) (s : Settings) (caller : Caller) (f : Filter) :
    e.compile s caller f =
      if (e.unlimited s caller f).width ≤ s.maxClauses then .ok (e.unlimited s caller f)
      else .error (.tooComplex f) := by
  rcases Nat.lt_or_ge s.maxClauses f.normalize.breadth with hbreadth | hbreadth
  · obtain ⟨count, hdraft⟩ := e.draft_eq_error caller f hbreadth
    have hwidth := e.breadth_le_unlimited_width s caller f
    rw [if_neg (by omega), compile, compileWith, hdraft]
    rfl
  · have hfinish : s.finish (e.outcome caller f.normalize).toQuery =
        if s.maxClauses < (e.unlimited s caller f).width then
          .error (.tooManyClauses (e.unlimited s caller f).width s.maxClauses)
        else .ok (e.unlimited s caller f) := rfl
    rw [compile, compileWith, draft_eq_ok e caller f hbreadth]
    change (s.finish _).mapError (Fault.blame f) = _
    rw [hfinish]
    by_cases hwidth : (e.unlimited s caller f).width ≤ s.maxClauses
    · rw [if_neg (Nat.not_lt.mpr hwidth), if_pos hwidth]
      rfl
    · rw [if_pos (Nat.lt_of_not_le hwidth), if_neg hwidth]
      rfl

theorem eq_unlimited_of_compile {e : Environment} {s : Settings} {caller : Caller} {f : Filter}
    {q : Query} (h : e.compile s caller f = .ok q) : q = e.unlimited s caller f := by
  rw [compile_eq] at h
  split at h
  · exact (Except.ok.inj h).symm
  · cases h

/-- Let `q` be the query that the leaves and groups of a filter make when there is no limit, that
is, under every limit from some point on, and anchor it if the settings say so. Compilation returns
it if it is no wider than the limit, and otherwise says of the filter as it was given that it is too
complex; there is no other fault. The early check of the groups rejects nothing that the check of
the width would let pass, and a higher limit keeps every query that was found. -/
theorem compile_exactly_within_limit (e : Environment) (s : Settings) (caller : Caller)
    (f : Filter) :
    ∃ q enough, (∀ limit ≥ enough, e.draft limit caller f.normalize = .ok q) ∧
      let final := if s.anchors then q.anchored else q
      e.compile s caller f =
        (if final.width ≤ s.maxClauses then .ok final else .error (.tooComplex f)) ∧
      (Fault.tooComplex f).message = "Clause too complex: " ++ f.render ∧
      (∀ fault, e.draft s.maxClauses caller f.normalize = .error fault →
        s.maxClauses < final.width) ∧
      (∀ limit ≥ s.maxClauses, ∀ found, e.compile s caller f = .ok found →
        e.compile { s with maxClauses := limit } caller f = .ok found) := by
  refine ⟨(e.outcome caller f.normalize).toQuery, f.normalize.breadth, ?_, ?_, ?_, ?_, ?_⟩
  · intro limit hlimit
    exact e.draft_eq_ok caller f hlimit
  · exact e.compile_eq s caller f
  · simp [Fault.message, String.join]
  · intro fault hfault
    have hwidth := e.breadth_le_unlimited_width s caller f
    by_cases hbreadth : f.normalize.breadth ≤ s.maxClauses
    · rw [e.draft_eq_ok caller f hbreadth] at hfault
      cases hfault
    · exact Nat.lt_of_lt_of_le (Nat.lt_of_not_le hbreadth) hwidth
  · intro limit hlimit found hfound
    rw [compile_eq] at hfound ⊢
    change (if (e.unlimited s caller f).width ≤ limit then
      Except.ok (e.unlimited s caller f) else _) = _
    split at hfound
    · rw [if_pos (by omega)]
      exact hfound
    · cases hfound

end Environment

end FilterCompiler
