import FilterCompiler.Proofs.Limit
import FilterCompiler.Proofs.Matching

/-!
What a filter means, said of the filter as it is written and without reference to
normal forms, flags or anchors, and the theorem that the compiled query matches
exactly the documents that are meant.

A filter has two readings that are not each other's complement. A leaf that finds nothing, and a
group without members, finds nothing under a negation either.
-/

namespace FilterCompiler

namespace Environment

mutual

/-- The positive reading: the documents that a filter asks for. -/
def accepts (e : Environment) (caller : Caller) (d : Document) : Filter → Bool
  | .condition c => (e.condition caller c).holds d
  | .past p => (e.past caller p).holds d
  | .change c => (e.change caller c).holds d
  | .all members => !members.isEmpty && (acceptsEach e caller d members).all id
  | .any members => (acceptsEach e caller d members).any id
  | .not inner => rejects e caller d inner

def acceptsEach (e : Environment) (caller : Caller) (d : Document) : List Filter → List Bool
  | [] => []
  | f :: fs => accepts e caller d f :: acceptsEach e caller d fs

/-- The negative reading: the documents that the negation of a filter asks for. -/
def rejects (e : Environment) (caller : Caller) (d : Document) : Filter → Bool
  | .condition c => (e.condition caller c).fails d
  | .past p => (e.past caller p).fails d
  | .change c => (e.change caller c).fails d
  | .all members => (rejectsEach e caller d members).any id
  | .any members => !members.isEmpty && (rejectsEach e caller d members).all id
  | .not inner => accepts e caller d inner

def rejectsEach (e : Environment) (caller : Caller) (d : Document) : List Filter → List Bool
  | [] => []
  | f :: fs => rejects e caller d f :: rejectsEach e caller d fs

end

theorem acceptsEach_eq_map (e : Environment) (caller : Caller) (d : Document) (fs : List Filter) :
    e.acceptsEach caller d fs = fs.map (e.accepts caller d) := by
  induction fs with
  | nil => rfl
  | cons f fs ih => simp [acceptsEach, ih]

theorem rejectsEach_eq_map (e : Environment) (caller : Caller) (d : Document) (fs : List Filter) :
    e.rejectsEach caller d fs = fs.map (e.rejects caller d) := by
  induction fs with
  | nil => rfl
  | cons f fs ih => simp [rejectsEach, ih]

theorem outcome_all_holds (e : Environment) (caller : Caller) (d : Document) (fs : List Filter) :
    (e.outcome caller (.all fs)).holds d =
      (!fs.isEmpty && (fs.map fun f => (e.outcome caller f).holds d).all id) := by
  rw [outcome, outcomes_eq_map, Outcome.conjunction_holds]
  simp [List.all_map, Function.comp_def]

theorem outcome_any_holds (e : Environment) (caller : Caller) (d : Document) (fs : List Filter) :
    (e.outcome caller (.any fs)).holds d =
      (fs.map fun f => (e.outcome caller f).holds d).any id := by
  rw [outcome, outcomes_eq_map, Outcome.disjunction_holds]
  simp [List.any_map, Function.comp_def]

/-- The reading of a filter that stands under an odd number of negations when `negated` holds, and
under an even number otherwise. -/
def reads (e : Environment) (caller : Caller) (d : Document) (negated : Bool) (f : Filter) : Bool :=
  if negated then e.rejects caller d f else e.accepts caller d f

theorem reads_false (e : Environment) (caller : Caller) (d : Document) :
    e.reads caller d false = e.accepts caller d := rfl

theorem reads_true (e : Environment) (caller : Caller) (d : Document) :
    e.reads caller d true = e.rejects caller d := rfl

/-- Pushing negations down to the leaves and answering what is left gives the reading of the filter.
The induction is for both polarities at once, since a negation swaps them. -/
theorem outcome_normalizeUnder_holds (e : Environment) (caller : Caller) (d : Document)
    (negated : Bool) (f : Filter) :
    (e.outcome caller (f.normalizeUnder negated)).holds d = e.reads caller d negated f := by
  induction f generalizing negated with
  | not inner ih =>
      rw [Filter.normalizeUnder, ih]
      cases negated <;> rfl
  | all members ih | any members ih =>
      have hmembers : ((members.map (Filter.normalizeUnder negated)).map fun f =>
          (e.outcome caller f).holds d) = members.map (e.reads caller d negated) := by
        rw [List.map_map]
        apply List.map_congr_left
        intro f hmember
        exact ih f hmember negated
      -- Under a negation the group changes its kind, and so does the reading of its members.
      cases negated <;>
        simp only [Filter.normalizeUnder, Filter.normalizeAll_eq_map, outcome_all_holds,
          outcome_any_holds, hmembers, List.isEmpty_map, reads_false, reads_true, accepts, rejects,
          acceptsEach_eq_map, rejectsEach_eq_map, Bool.false_eq_true, if_true, if_false]
  | condition c | past p | change c =>
      cases negated with
      | false => rfl
      | true => exact Outcome.complement_holds d _

/-- A compiled query matches exactly the documents that the filter asks for, as it was written. -/
theorem compile_matches_accepted (e : Environment) (limit : Nat) (caller : Caller) (f : Filter)
    (q : Query) (hq : e.compile ⟨limit, true⟩ caller f = .ok q) (d : Document) :
    q.matchedBy d = e.accepts caller d f := by
  calc
    q.matchedBy d = (e.unlimited ⟨limit, true⟩ caller f).matchedBy d := by
      rw [eq_unlimited_of_compile hq]
    _ = (e.outcome caller f.normalize).holds d := Outcome.toQuery_anchored_matchedBy d _
    _ = e.accepts caller d f := e.outcome_normalizeUnder_holds caller d false f

/-- Every condition asks for its field's name, negated for negative operators; the past is unknown,
and everything has changed in the document with the number 7. Under the negation, the document is
found by `b` and not excluded by `a`; the question about the past finds nothing, negated or not. -/
theorem compile_matches_accepted_under_negation :
    let echo : Environment :=
      { answers := fun _ c => [⟨.ofTerm c.field c.field, c.operator.isNegative⟩]
        past := fun _ _ => .nothing
        change := fun _ _ => ⟨.document 7, false⟩ }
    let f : Filter := .not (.any [.condition ⟨"a", .equals, .empty⟩,
      .all [.condition ⟨"b", .notEquals, .empty⟩, .past ⟨"c", .was, .empty, []⟩]])
    let q : Query := .boolean [(.mustNot, .ofTerm "a" "a"),
      (.must, .boolean [(.should, .ofTerm "b" "b"), (.should, .nothing)])]
    let d := Document.ofTerms fun t => t.text == "b"
    echo.compile ⟨2, true⟩ ⟨none, false⟩ f = .ok q ∧ q.matchedBy d = true ∧
      q.matchedBy d = echo.accepts ⟨none, false⟩ d f := by
  intro echo f q d
  have hcompiled : echo.compile ⟨2, true⟩ ⟨none, false⟩ f = .ok q := rfl
  exact ⟨hcompiled, rfl, compile_matches_accepted echo 2 ⟨none, false⟩ f q hcompiled d⟩

end Environment

end FilterCompiler
