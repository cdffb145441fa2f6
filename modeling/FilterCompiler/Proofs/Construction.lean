import FilterCompiler.Proofs.Shape
import FilterCompiler.Rule.Basic

/-!
How rules build queries. Whatever the literals are, a rule asks questions about its field, among
them whether a document shows the field and holds a value in it, and combines them by booleans that
are never empty. Where it has no question to ask, its outcome is the one that finds nothing; no rule
leaves a negation to be placed by others. All that is said elsewhere of the queries of rules in
general follows from this.
-/

namespace FilterCompiler

namespace Query

variable {field : String}

/-- Queries made of questions about a field. -/
inductive BuiltFor (field : String) : Query → Prop where
  | asking {q : Query} (hfield : q.field? = some field) : BuiltFor field q
  | visible : BuiltFor field (.visible field)
  | present : BuiltFor field (.present field)
  | boosted {q : Query} {boost : Weight} (hinner : BuiltFor field q) :
      BuiltFor field (.boosted q boost)
  | boolean {clauses : Clauses} (hsome : clauses ≠ [])
      (hclauses : ∀ clause ∈ clauses, BuiltFor field clause.2) : BuiltFor field (.boolean clauses)

attribute [simp] BuiltFor.visible BuiltFor.present

@[simp] theorem builtFor_ofTerm (field text : String) : (ofTerm field text).BuiltFor field :=
  .asking rfl

theorem builtFor_alternatives {α : Type} {f : α → Query} {xs : List α} (hsome : xs ≠ [])
    (h : ∀ x ∈ xs, (f x).BuiltFor field) :
    (boolean (xs.map fun x => (.should, f x))).BuiltFor field := by
  apply BuiltFor.boolean
  · simpa using hsome
  · intro clause hmember
    obtain ⟨x, hx, rfl⟩ := List.mem_map.mp hmember
    exact h x hx

theorem BuiltFor.searchable {q : Query} (h : q.BuiltFor field) : q.Searchable := by
  induction h with
  | asking hfield => exact searchable_of_field? hfield
  | visible | present => exact searchable_of_field? rfl
  | boosted _ ih => exact ih
  | boolean hsome _ ih => exact (searchable_boolean _).mpr ⟨hsome, ih⟩

end Query

/-- The query of an expression is made of questions about the field it is read for. -/
theorem FreeText.Target.Shaped.builtFor {t : FreeText.Target} {n : Nat} {q : Query}
    (h : t.Shaped n q) : q.BuiltFor t.field := by
  induction h with
  | leaf hleaf => exact .asking hleaf.field?_eq
  | boosted _ ih => exact .boosted ih
  | boolean hsome _ ih => exact .boolean hsome ih

/-- The outcomes of rules for a field: nothing, or a query for the field that is not negated. -/
inductive Outcome.BuiltFor (field : String) : Outcome → Prop where
  | nothing : BuiltFor field .nothing
  | query {q : Query} (h : q.BuiltFor field) : BuiltFor field ⟨q, false⟩

attribute [simp] Outcome.BuiltFor.nothing

theorem Outcome.BuiltFor.guarded {field : String} {o : Outcome} (h : o.BuiltFor field) :
    (o.guarded field).BuiltFor field := by
  cases h with
  | nothing => exact .nothing
  | query h =>
      unfold Outcome.guarded
      split
      · exact .query h
      · exact .query (.boolean (by simp) (by simp [required, h]))

namespace Rule

namespace Membership

@[simp] theorem absent_builtFor (m : Membership) (field : String) :
    (m.absent field).BuiltFor field := by
  unfold absent
  split
  · simp
  · exact .boolean (by simp) (by simp)

@[simp] theorem present_builtFor (m : Membership) (field : String) :
    (m.present field).BuiltFor field := by
  unfold present
  split
  · exact .boolean (by simp) (by simp)
  · simp

theorem wordQuery_builtFor (m : Membership) (field : String) (word : Option String) :
    (m.wordQuery field word).BuiltFor field := by
  cases word with
  | none => exact m.absent_builtFor field
  | some word => exact Query.builtFor_ofTerm field word

@[simp] theorem anyOf_builtFor (m : Membership) (field : String) (literals : List Literal) :
    (m.anyOf field literals).BuiltFor field := by
  unfold anyOf
  split
  · exact .nothing
  · exact .query (m.wordQuery_builtFor field _)
  · rename_i hsome _
    exact .query (Query.builtFor_alternatives hsome fun word _ => m.wordQuery_builtFor field word)

@[simp] theorem noneOf_builtFor (m : Membership) (field : String) (literals : List Literal) :
    (m.noneOf field literals).BuiltFor field := by
  have hpresent := m.present_builtFor field
  unfold noneOf
  split
  · exact .query hpresent
  · exact .query (.boolean (by simp) (by simp [hpresent, or_imp, forall_and]))

theorem outcome_builtFor (m : Membership) (field : String) (operator : Operator) (a : Argument) :
    (m.outcome field operator a).BuiltFor field := by
  cases a with
  | single literals | list literals =>
      simp only [outcome]
      split <;> simp
  | empty =>
      simp only [outcome]
      split <;> simp [Outcome.BuiltFor.query]

end Membership

namespace Comparison

theorem ofBounds?_field {field : String} {operator : Operator} {b : Value.Bounds} {r : WordRange}
    (h : ofBounds? field operator b = some r) : r.field = field := by
  cases operator <;> simp_all [ofBounds?, WordRange.below, WordRange.above] <;> subst h <;> rfl

theorem range?_field {c : Comparison} {field : String} {operator : Operator} {l : Literal}
    {r : WordRange} (h : c.range? field operator l = some r) : r.field = field := by
  unfold range? at h
  split at h
  · split at h
    · obtain rfl := Option.some.inj h
      rfl
    · cases h
  · obtain ⟨b, _, hrange⟩ := Option.bind_eq_some_iff.mp h
    exact ofBounds?_field hrange

theorem outcome_builtFor (c : Comparison) (field : String) (operator : Operator) (a : Argument) :
    (c.outcome field operator a).BuiltFor field := by
  cases a with
  | list literals | empty => exact .nothing
  | single literals =>
      have hranges : ∀ r ∈ literals.filterMap (c.range? field operator),
          (Query.range r).BuiltFor field := by
        intro r hmember
        obtain ⟨l, _, hrange⟩ := List.mem_filterMap.mp hmember
        exact .asking (congrArg some (range?_field hrange))
      simp only [outcome]
      split
      · split
        · rename_i range hrange _
          exact .query (hranges range (by simp [hrange]))
        · rename_i range word hrange _
          have hrange := hranges range (by simp [hrange])
          exact .query (.boolean (by simp) (by simp [hrange]))
        · exact .nothing
      · exact .nothing

end Comparison

namespace Ranking

variable {r : Ranking} {field : String} {operator : Operator}

/-- There is a query for an identifier exactly when others are listed for it. -/
theorem query?_eq_some_iff (id : String) (q : Query) :
    r.query? field operator id = some q ↔
      ∃ ids, r.compared? operator id = some ids ∧ ids ≠ [] ∧
        q = .boolean (ids.map fun id => (.should, .ofTerm field id)) := by
  unfold query?
  split
  · rename_i hnone
    simp [hnone]
  · rename_i hempty
    simp [hempty]
  · rename_i ids hids hlisted
    have hsome : ids ≠ [] := hids
    simp [hlisted, hsome, eq_comm]

/-- The queries for all identifiers that the literals stand for. -/
def queries (r : Ranking) (field : String) (operator : Operator) (literals : List Literal) :
    List Query :=
  ((literals.filter (!·.isEmpty)).flatMap r.values).filterMap (r.query? field operator)

/-- No queries are nothing, a single one stands for itself, and several are alternatives. -/
theorem outcome_cases (r : Ranking) (field : String) (hrelational : operator.isRelational = true)
    (literals : List Literal) :
    let queries := r.queries field operator literals
    let found := r.outcome field operator (.single literals)
    (queries = [] ∧ found = .nothing) ∨ (∃ q, queries = [q] ∧ found = ⟨q, false⟩) ∨
      (queries ≠ [] ∧ found = ⟨.boolean (queries.map fun q => (.should, q)), false⟩) := by
  intro queries found
  simp only [found, outcome, if_pos (show handles operator = true from hrelational)]
  split
  · rename_i hqueries
    exact .inl ⟨hqueries, rfl⟩
  · rename_i q hqueries
    exact .inr (.inl ⟨q, hqueries, rfl⟩)
  · rename_i hqueries _
    exact .inr (.inr ⟨hqueries, rfl⟩)

theorem queries_builtFor {literals : List Literal} :
    ∀ q ∈ r.queries field operator literals, q.BuiltFor field := by
  intro q hmember
  obtain ⟨id, -, hq⟩ := List.mem_filterMap.mp hmember
  obtain ⟨ids, -, hsome, rfl⟩ := (query?_eq_some_iff id q).mp hq
  exact Query.builtFor_alternatives hsome fun id _ => Query.builtFor_ofTerm field id

theorem outcome_builtFor (r : Ranking) (field : String) (operator : Operator) (a : Argument) :
    (r.outcome field operator a).BuiltFor field := by
  cases a with
  | list literals | empty => exact .nothing
  | single literals =>
      by_cases hrelational : operator.isRelational = true
      · rcases r.outcome_cases field hrelational literals with
          ⟨-, hfound⟩ | ⟨q, hqueries, hfound⟩ | ⟨hsome, hfound⟩
        · rw [hfound]
          exact .nothing
        · rw [hfound]
          have hmember : q ∈ r.queries field operator literals := by simp [hqueries]
          exact .query (queries_builtFor q hmember)
        · rw [hfound]
          exact .query (Query.builtFor_alternatives hsome queries_builtFor)
      · rw [outcome, if_neg (show ¬handles operator = true from hrelational)]
        exact .nothing

end Ranking

namespace Wording

theorem absent_builtFor (field : String) : (absent field).BuiltFor field := by
  unfold absent
  exact .boolean (by simp) (by simp)

theorem ofAbsence_builtFor (field : String) (operator : Operator) :
    (ofAbsence field operator).BuiltFor field := by
  unfold ofAbsence
  split <;> simp [Outcome.BuiltFor.query, absent_builtFor]

/-- An expression is read for the field, and asks for something. -/
theorem expression?_builtFor {w : Wording} {field : String} {l : Literal} {q : Query}
    (h : w.expression? field l = some q) : q.BuiltFor field := by
  obtain ⟨text, _, hread⟩ := Option.bind_eq_some_iff.mp h
  split at hread
  · cases hread
  · split at hread
    · rename_i parsed hparse
      split at hread
      · cases hread
      · rename_i hsome
        obtain rfl := Option.some.inj hread
        rcases FreeText.Target.parse_shaped hparse with rfl | hshaped
        · exact absurd rfl hsome
        · exact hshaped.builtFor
    · cases hread

theorem ofOne_builtFor (w : Wording) (field : String) (positive : Bool) (l : Literal) :
    (w.ofOne field positive l).BuiltFor field := by
  unfold ofOne
  split
  · exact .nothing
  · rename_i q hq
    have hexpression := expression?_builtFor hq
    apply Outcome.BuiltFor.query
    apply Query.BuiltFor.boolean (List.cons_ne_nil _ _)
    cases w.handlesEmpty <;> simp [hexpression]

theorem clause?_builtFor {w : Wording} {field : String} {positive : Bool} {l : Literal}
    {clauses : Clauses} (h : w.clause? field positive l = some clauses) :
    ∀ clause ∈ clauses, clause.2.BuiltFor field := by
  unfold clause? at h
  split at h
  · split at h
    · simp_all
    · split at h <;> obtain rfl := Option.some.inj h <;> simp [absent_builtFor]
  · obtain ⟨q, hq, rfl⟩ := Option.map_eq_some_iff.mp h
    simpa using expression?_builtFor hq

/-- If several expressions have clauses, each of these comes from one of the expressions. -/
theorem clause?_of_mem_mapM {w : Wording} {field : String} {positive : Bool}
    {literals : List Literal} {parts : List Clauses}
    (h : literals.mapM (w.clause? field positive) = some parts) :
    ∀ part ∈ parts, ∃ l, w.clause? field positive l = some part := by
  induction literals generalizing parts with
  | nil =>
      obtain rfl : [] = parts := by simpa using h
      simp
  | cons l rest ih =>
      rw [List.mapM_cons] at h
      obtain ⟨first, hfirst, hrest⟩ := Option.bind_eq_some_iff.mp h
      obtain ⟨others, hothers, heq⟩ := Option.bind_eq_some_iff.mp hrest
      obtain rfl : first :: others = parts := Option.some.inj heq
      exact List.forall_mem_cons.mpr ⟨⟨l, hfirst⟩, ih hothers⟩

theorem ofSeveral_builtFor (w : Wording) (field : String) (positive : Bool)
    (literals : List Literal) : (w.ofSeveral field positive literals).BuiltFor field := by
  unfold ofSeveral
  split
  · exact .nothing
  · rename_i clauses hclauses
    have hbuilt : ∀ clause ∈ clauses.flatten, clause.2.BuiltFor field := by
      intro clause hmember
      obtain ⟨part, hpart, hclause⟩ := List.mem_flatten.mp hmember
      obtain ⟨l, hl⟩ := clause?_of_mem_mapM hclauses part hpart
      exact clause?_builtFor hl clause hclause
    split
    · exact .nothing
    · rename_i hsome
      have hinner := Query.BuiltFor.boolean (mt List.isEmpty_iff.mpr hsome) hbuilt
      exact .query (.boolean (by simp) (by simp [hinner]))

theorem ofLiterals_builtFor (w : Wording) (field : String) (positive : Bool)
    (literals : List Literal) : (w.ofLiterals field positive literals).BuiltFor field := by
  unfold ofLiterals
  split
  · exact .nothing
  · exact ofAbsence_builtFor field _
  · exact w.ofOne_builtFor field positive _
  · exact w.ofSeveral_builtFor field positive _

theorem outcome_builtFor (w : Wording) (field : String) (operator : Operator) (a : Argument) :
    (w.outcome field operator a).BuiltFor field := by
  cases a with
  | list literals => exact .nothing
  | empty => exact ofAbsence_builtFor field operator
  | single literals =>
      simp only [outcome]
      split
      · exact w.ofLiterals_builtFor field true literals
      · exact w.ofLiterals_builtFor field false literals
      · exact .nothing

end Wording

theorem outcome_builtFor (rule : Rule) (field : String) (operator : Operator) (a : Argument) :
    (rule.outcome field operator a).BuiltFor field := by
  cases rule with
  | membership m => exact m.outcome_builtFor field operator a
  | comparison c => exact c.outcome_builtFor field operator a
  | ranking r => exact r.outcome_builtFor field operator a
  | wording w => exact w.outcome_builtFor field operator a

end Rule

/-- A searcher builds queries for its own field of the index, whatever condition it is given. -/
theorem Searcher.outcome_builtFor (s : Searcher) (caller : Caller) (c : Condition) :
    (s.outcome caller c).BuiltFor s.indexField := by
  unfold Searcher.outcome
  cases s.rules.find? (·.handles c.operator) with
  | none =>
      dsimp only
      split
      · exact Outcome.BuiltFor.nothing.guarded
      · exact .nothing
  | some rule =>
      have hrule := rule.outcome_builtFor s.indexField c.operator
        (s.resolver.argument caller c.field c.operand)
      dsimp only
      split
      · exact hrule.guarded
      · exact hrule

end FilterCompiler
