import FilterCompiler.Proofs.Trees

/-!
Which documents a query matches, and which documents an outcome stands for. What the index answers
about the words of single fields is left open: a document is any choice of these answers. Nothing is
assumed about how they hang together, so the theorems hold for every analysis and every field.
-/

namespace FilterCompiler

/-- A document, as far as queries can tell: its answer to every question about a single field. -/
structure Document where
  term : Term → Bool
  range : WordRange → Bool
  phrase : Phrase → Bool
  stem : Term → Bool
  wildcard : Term → Bool
  fuzzy : Term → Weight → Bool

/-- A document of which nothing is known but the single words it holds. -/
def Document.ofTerms (term : Term → Bool) : Document :=
  ⟨term, fun _ => false, fun _ => false, fun _ => false, fun _ => false, fun _ _ => false⟩

namespace Occurrence

/-- A clause that must occur needs a match, one that must not occur forbids it. -/
def admits : Occurrence → Bool → Bool
  | .must, answer => answer
  | .should, _ => true
  | .mustNot, answer => !answer

/-- Only a match of a clause that must or should occur finds a document. -/
def finds : Occurrence → Bool → Bool
  | .must, answer | .should, answer => answer
  | .mustNot, _ => false

@[simp] theorem must_admits (answer : Bool) : must.admits answer = answer := rfl

@[simp] theorem should_admits (answer : Bool) : should.admits answer = true := rfl

@[simp] theorem mustNot_admits (answer : Bool) : mustNot.admits answer = !answer := rfl

@[simp] theorem must_finds (answer : Bool) : must.finds answer = answer := rfl

@[simp] theorem should_finds (answer : Bool) : should.finds answer = answer := rfl

@[simp] theorem mustNot_finds (answer : Bool) : mustNot.finds answer = false := rfl

end Occurrence

namespace Query

mutual

/-- A boolean matches when all its clauses admit the document and at least one finds it, so that
without clauses, or with clauses that only exclude, it matches nothing. -/
def matchedBy (d : Document) : Query → Bool
  | .term t => d.term t
  | .boolean clauses =>
    (answers d clauses).all (fun a => a.1.admits a.2) &&
      (answers d clauses).any fun a => a.1.finds a.2
  | .range r => d.range r
  | .phrase p => d.phrase p
  | .stem t => d.stem t
  | .wildcard t => d.wildcard t
  | .fuzzy t similarity => d.fuzzy t similarity
  | .boosted inner _ => inner.matchedBy d
  | .everything => true

def answers (d : Document) : List (Occurrence × Query) → List (Occurrence × Bool)
  | [] => []
  | (occurrence, q) :: rest => (occurrence, q.matchedBy d) :: answers d rest

end

theorem answers_eq_map (d : Document) (clauses : Clauses) :
    answers d clauses = clauses.map fun clause => (clause.1, clause.2.matchedBy d) := by
  induction clauses with
  | nil => rfl
  | cons clause rest ih => simp [answers, ih]

@[simp] theorem everything_matchedBy (d : Document) : everything.matchedBy d = true := rfl

theorem boolean_matchedBy (d : Document) (clauses : Clauses) :
    (boolean clauses).matchedBy d =
      (clauses.all (fun clause => clause.1.admits (clause.2.matchedBy d)) &&
        clauses.any fun clause => clause.1.finds (clause.2.matchedBy d)) := by
  simp [matchedBy, answers_eq_map, List.all_map, List.any_map, Function.comp_def]

/-- Alternatives match when one of them does. -/
theorem alternatives_matchedBy {α : Type} (d : Document) (f : α → Query) (xs : List α) :
    (boolean (xs.map fun x => (.should, f x))).matchedBy d = xs.any fun x => (f x).matchedBy d := by
  simp [boolean_matchedBy, List.all_map, List.any_map, Function.comp_def]

/-- Once it is anchored, a boolean that only excludes needs no clause to find the document. -/
theorem boolean_anchor_matchedBy (d : Document) (clauses : Clauses) :
    (boolean (anchor clauses)).matchedBy d =
      (clauses.all (fun clause => clause.1.admits (clause.2.matchedBy d)) &&
        (purelyNegative clauses ||
          clauses.any fun clause => clause.1.finds (clause.2.matchedBy d))) := by
  unfold anchor
  cases hnegative : purelyNegative clauses with
  | false => simp [boolean_matchedBy]
  | true => simp [boolean_matchedBy]

/-- Anchoring what stands in the clauses does not change whether they only exclude. -/
theorem purelyNegative_map (g : Query → Query) (clauses : Clauses) :
    purelyNegative (clauses.map fun clause => (clause.1, g clause.2)) = purelyNegative clauses := by
  simp [purelyNegative, List.all_map, Function.comp_def]

theorem boolean_anchored_matchedBy (d : Document) (clauses : Clauses) :
    (boolean clauses).anchored.matchedBy d =
      (clauses.all (fun clause => clause.1.admits (clause.2.anchored.matchedBy d)) &&
        (purelyNegative clauses ||
          clauses.any fun clause => clause.1.finds (clause.2.anchored.matchedBy d))) := by
  rw [anchored, boolean_anchor_matchedBy, anchoredClauses_eq_map, purelyNegative_map]
  simp [List.all_map, List.any_map, Function.comp_def]

@[simp] theorem visible_anchored (field : String) : (visible field).anchored = visible field := rfl

@[simp] theorem present_anchored (field : String) : (present field).anchored = present field := rfl

theorem ofTerm_matchedBy (field text : String) (d : Document) :
    (ofTerm field text).matchedBy d = d.term ⟨field, text⟩ := rfl

@[simp] theorem visible_matchedBy (field : String) (d : Document) :
    (visible field).matchedBy d = d.term ⟨"visiblefieldids", field⟩ := rfl

@[simp] theorem present_matchedBy (field : String) (d : Document) :
    (present field).matchedBy d = d.term ⟨"nonemptyfieldids", field⟩ := rfl

end Query

namespace Outcome

/-- The documents that an outcome stands for: those that its query matches once it is anchored, or
the others if it is negated. -/
def holds (d : Document) (o : Outcome) : Bool := o.query.anchored.matchedBy d ^^ o.negated

/-- The documents that the complement of an outcome stands for. An outcome without documents has
none in its complement either. -/
def fails (d : Document) (o : Outcome) : Bool := !o.isNothing && !o.holds d

theorem holds_eq_false_of_isNothing {o : Outcome} (hnothing : o.isNothing = true) (d : Document) :
    o.holds d = false := by
  obtain ⟨query, negated⟩ := o
  simp only [isNothing, Bool.and_eq_true, Bool.not_eq_true'] at hnothing
  obtain ⟨rfl, hquery⟩ := hnothing
  cases query with
  | boolean clauses =>
      obtain rfl : clauses = [] := by simpa [Query.isNothing] using hquery
      rfl
  | _ => simp [Query.isNothing] at hquery

theorem complement_holds (d : Document) (o : Outcome) : o.complement.holds d = o.fails d := by
  unfold complement fails
  cases hnothing : o.isNothing with
  | true => simp [holds_eq_false_of_isNothing hnothing]
  | false => simp [holds, negate]

/-- Placing the negation of an outcome in a query of its own keeps its documents. -/
theorem toQuery_anchored_matchedBy (d : Document) (o : Outcome) :
    o.toQuery.anchored.matchedBy d = o.holds d := by
  obtain ⟨query, negated⟩ := o
  cases negated with
  | false => simp [toQuery, holds]
  | true =>
      simp [toQuery, holds, Query.excluding, Query.boolean_anchored_matchedBy,
        Query.purelyNegative]

/-- A required clause admits exactly the documents that its outcome stands for. -/
theorem required_admits (d : Document) (o : Outcome) :
    o.required.1.admits (o.required.2.anchored.matchedBy d) = o.holds d := by
  obtain ⟨query, negated⟩ := o
  cases negated <;> simp [required, holds]

/-- A required clause finds a document that its outcome stands for, unless it is negated. -/
theorem required_finds (d : Document) (o : Outcome) :
    o.required.1.finds (o.required.2.anchored.matchedBy d) = (!o.negated && o.holds d) := by
  obtain ⟨query, negated⟩ := o
  cases negated <;> simp [required, holds]

theorem purelyNegative_required (os : List Outcome) :
    Query.purelyNegative (os.map required) = (!os.isEmpty && os.all negated) := by
  have hclause (o : Outcome) : (o.required.1 == .mustNot) = o.negated := by
    cases hnegated : o.negated <;> simp [required, hnegated]
  simp only [Query.purelyNegative, List.isEmpty_map, List.all_map, Function.comp_def, hclause]

/-- A conjunction stands for what all its members stand for. Its members may all be negated: then
nothing finds a document, and anchoring makes up for it. -/
theorem conjunction_holds (d : Document) (os : List Outcome) :
    (conjunction os).holds d = (!os.isEmpty && os.all (holds d)) := by
  rw [holds, conjunction, Query.boolean_anchored_matchedBy, purelyNegative_required, Bool.xor_false]
  simp only [List.all_map, List.any_map, Function.comp_def, required_admits, required_finds]
  cases hall : os.all fun o => o.holds d with
  | false => simp
  | true =>
      have hfound : (os.any fun o => !o.negated && o.holds d) = !os.all negated := by
        rw [List.not_all_eq_any_not, Bool.eq_iff_iff]
        simp only [List.any_eq_true, Bool.and_eq_true]
        constructor
        · rintro ⟨o, hmember, hpositive, -⟩
          exact ⟨o, hmember, hpositive⟩
        · rintro ⟨o, hmember, hpositive⟩
          exact ⟨o, hmember, hpositive, List.all_eq_true.mp hall o hmember⟩
      rw [hfound]
      cases hnegative : os.all negated with
      | true => simp
      | false =>
          cases os with
          | nil => cases hnegative
          | cons => rfl

/-- A disjunction stands for what one of its members stands for. -/
theorem disjunction_holds (d : Document) (os : List Outcome) :
    (disjunction os).holds d = os.any (holds d) := by
  have hpositive : Query.purelyNegative (os.map alternative) = false := by
    cases os <;> simp [Query.purelyNegative, alternative]
  rw [holds, disjunction, Query.boolean_anchored_matchedBy, hpositive, Bool.xor_false]
  simp [List.all_map, List.any_map, Function.comp_def, alternative, toQuery_anchored_matchedBy]

end Outcome

end FilterCompiler
