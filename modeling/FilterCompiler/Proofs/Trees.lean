import FilterCompiler.Compilation

/-!
Filters, queries and free-text expressions. All of them hold lists of themselves, so the functions
on them come in pairs, one for a tree and one for a list. Here the lists are taken care of once:
each list function is the tree function applied to every member, and induction over a filter or a
query gives a hypothesis for every member.
-/

namespace FilterCompiler

@[elab_as_elim, induction_eliminator]
theorem Query.induction {motive : Query → Prop}
    (term : ∀ t, motive (.term t))
    (boolean : ∀ clauses : Clauses, (∀ clause ∈ clauses, motive clause.2) →
      motive (.boolean clauses))
    (range : ∀ r, motive (.range r))
    (phrase : ∀ p, motive (.phrase p))
    (stem : ∀ t, motive (.stem t))
    (wildcard : ∀ t, motive (.wildcard t))
    (fuzzy : ∀ t similarity, motive (.fuzzy t similarity))
    (boosted : ∀ inner boost, motive inner → motive (.boosted inner boost))
    (everything : motive .everything) (q : Query) : motive q :=
  @Query.rec motive (fun clauses => ∀ clause ∈ clauses, motive clause.2)
    (fun clause => motive clause.2) term boolean range phrase stem wildcard fuzzy boosted everything
    (fun _ h => nomatch h)
    (fun _ _ hhead htail _ hmember => (List.mem_cons.mp hmember).elim (· ▸ hhead) (htail _))
    (fun _ _ h => h) q

@[elab_as_elim, induction_eliminator]
theorem Filter.induction {motive : Filter → Prop}
    (condition : ∀ c, motive (.condition c))
    (all : ∀ members : List Filter, (∀ f ∈ members, motive f) → motive (.all members))
    (any : ∀ members : List Filter, (∀ f ∈ members, motive f) → motive (.any members))
    (not : ∀ inner, motive inner → motive (.not inner))
    (past : ∀ p, motive (.past p))
    (change : ∀ c, motive (.change c)) (f : Filter) : motive f :=
  @Filter.rec motive (fun members => ∀ f ∈ members, motive f)
    condition all any not past change
    (fun _ h => nomatch h)
    (fun _ _ hhead htail _ hmember => (List.mem_cons.mp hmember).elim (· ▸ hhead) (htail _)) f

@[simp] theorem FreeText.Level.queries_eq_map (t : FreeText.Target) (level : FreeText.Level) :
    FreeText.Level.queries t level = level.map fun item => (item.1, item.2.query? t) := by
  induction level with
  | nil => rfl
  | cons item rest ih => simp [FreeText.Level.queries, ih]

namespace Query

@[simp] theorem anchoredClauses_eq_map (clauses : Clauses) :
    anchoredClauses clauses = clauses.map fun clause => (clause.1, clause.2.anchored) := by
  induction clauses with
  | nil => rfl
  | cons clause rest ih => simp [anchoredClauses, ih]

/-- A bound on the width is a bound on every member. -/
theorem widest_le_iff (clauses : Clauses) (n : Nat) :
    widest clauses ≤ n ↔ ∀ clause ∈ clauses, clause.2.width ≤ n := by
  induction clauses with
  | nil => simp [widest]
  | cons clause rest ih => simp only [widest, List.forall_mem_cons, Nat.max_le, ih]

theorem width_le_widest {clauses : Clauses} {clause : Occurrence × Query}
    (hmember : clause ∈ clauses) : clause.2.width ≤ widest clauses :=
  (widest_le_iff clauses _).mp (Nat.le_refl _) clause hmember

end Query

namespace Filter

@[simp] theorem normalizeAll_eq_map (negated : Bool) (fs : List Filter) :
    normalizeAll negated fs = fs.map (normalizeUnder negated) := by
  induction fs with
  | nil => rfl
  | cons f fs ih => simp [normalizeAll, ih]

@[simp] theorem areNormal_eq_all (fs : List Filter) : areNormal fs = fs.all isNormal := by
  induction fs with
  | nil => rfl
  | cons f fs ih => simp [areNormal, ih]

theorem checkAll_eq_ok_iff (limit : Nat) (fs : List Filter) :
    checkAll limit fs = .ok () ↔ ∀ f ∈ fs, f.check limit = .ok () := by
  induction fs with
  | nil => simp [checkAll]
  | cons f fs ih =>
      simp only [checkAll, List.forall_mem_cons]
      cases f.check limit with
      | error fault => simp
      | ok => simp [ih]

/-- A fault of a list is the fault of one of its members. -/
theorem check_of_checkAll_eq_error {limit : Nat} {fs : List Filter} {fault : Compilation.Fault}
    (h : checkAll limit fs = .error fault) : ∃ f ∈ fs, f.check limit = .error fault := by
  induction fs with
  | nil => simp [checkAll] at h
  | cons f fs ih =>
      simp only [checkAll] at h
      cases hf : f.check limit with
      | error first =>
          rw [hf] at h
          exact ⟨f, List.mem_cons_self, hf.trans h⟩
      | ok =>
          rw [hf] at h
          obtain ⟨g, hg, hfault⟩ := ih h
          exact ⟨g, List.mem_cons_of_mem f hg, hfault⟩

end Filter

@[simp] theorem Environment.outcomes_eq_map (e : Environment) (caller : Caller) (fs : List Filter) :
    e.outcomes caller fs = fs.map (e.outcome caller) := by
  induction fs with
  | nil => rfl
  | cons f fs ih => simp [Environment.outcomes, ih]

end FilterCompiler
