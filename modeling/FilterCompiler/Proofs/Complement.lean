import FilterCompiler.Proofs.Matching

/-!
Asking for wording and excluding it are complementary. For the same literals either both find
nothing or, in every document that shows the field and holds a value in it, exactly one of the two
finds the document. None, one and several literals are answered in different ways. What an
expression asks is left open throughout: its query may only exclude, or be nested in any way.
-/

namespace FilterCompiler.Rule.Wording

open Outcome (conjunction disjunction conjunction_holds disjunction_holds)

variable {field : String} {d : Document}

/-- The document shows the field and holds a value in it. -/
def Filled (field : String) (d : Document) : Prop :=
  d.term ⟨"visiblefieldids", field⟩ = true ∧ d.term ⟨"nonemptyfieldids", field⟩ = true

/-- Outcomes that stand for opposites among the documents that hold a value. -/
def Opposite (field : String) (asked excluded : Outcome) : Prop :=
  ∀ d, Filled field d → excluded.holds d = !asked.holds d

/-- Outcomes that find nothing together and stand for opposites otherwise. -/
structure Complementary (field : String) (asked excluded : Outcome) : Prop where
  isNothing_eq : asked.isNothing = excluded.isNothing
  opposite : asked.isNothing = false → Opposite field asked excluded

theorem complementary_nothing (field : String) : Complementary field .nothing .nothing :=
  ⟨rfl, nofun⟩

theorem opposite_absence (field : String) :
    Opposite field ⟨absent field, false⟩ ⟨.present field, false⟩ := by
  intro d hfilled
  simp [Outcome.holds, absent, Query.boolean_anchored_matchedBy, hfilled.2]

theorem opposite_negation (field : String) (q : Query) : Opposite field ⟨q, false⟩ ⟨q, true⟩ := by
  intro d _
  simp [Outcome.holds]

/-- Outcomes that every document with a value belongs to change nothing. -/
theorem opposite_guarded (guards : List Outcome)
    (hguards : ∀ d, Filled field d → guards.all (Outcome.holds d) = true) {asked excluded : Outcome}
    (h : Opposite field asked excluded) :
    Opposite field (conjunction (asked :: guards)) (conjunction (excluded :: guards)) := by
  intro d hfilled
  rw [conjunction_holds, conjunction_holds, List.all_cons, List.all_cons, hguards d hfilled,
    h d hfilled]
  simp

/-- Of pairs of opposites, all of the second hold exactly when none of the first does. -/
theorem opposite_conjunction {pairs : List (Outcome × Outcome)}
    (hpairs : ∀ pair ∈ pairs, Opposite field pair.1 pair.2) (hsome : pairs ≠ []) :
    Opposite field (disjunction (pairs.map Prod.fst)) (conjunction (pairs.map Prod.snd)) := by
  intro d hfilled
  have hopposite :
      (pairs.map fun pair => pair.2.holds d) = pairs.map fun pair => !pair.1.holds d := by
    apply List.map_congr_left
    intro pair hmember
    exact hpairs pair hmember d hfilled
  have hempty : (pairs.map Prod.snd).isEmpty = false := by simpa using hsome
  calc
    (conjunction (pairs.map Prod.snd)).holds d = (pairs.map fun pair => pair.2.holds d).all id := by
      simp [conjunction_holds, hempty, List.all_map, Function.comp_def]
    _ = (pairs.map fun pair => !pair.1.holds d).all id := by rw [hopposite]
    _ = !(pairs.map Prod.fst).any (Outcome.holds d) := by
      simp [List.all_map, List.any_map, Function.comp_def, List.not_any_eq_all_not]
    _ = !(disjunction (pairs.map Prod.fst)).holds d := by rw [disjunction_holds]

/-- A single expression is either required or excluded, under the same guards. -/
theorem ofOne_complementary (w : Wording) (field : String) (l : Literal) :
    Complementary field (w.ofOne field true l) (w.ofOne field false l) := by
  unfold ofOne
  cases w.expression? field l with
  | none => exact complementary_nothing field
  | some q =>
      have hnegation := opposite_negation field q
      cases w.handlesEmpty with
      | false =>
          have hopposite := opposite_guarded [] (fun _ _ => rfl) hnegation
          exact ⟨rfl, fun _ => hopposite⟩
      | true =>
          have hguards (d : Document) (hfilled : Filled field d) :
              [⟨.present field, false⟩, ⟨.visible field, false⟩].all (Outcome.holds d) = true := by
            simp [Outcome.holds, hfilled.1, hfilled.2]
          have hopposite := opposite_guarded _ hguards hnegation
          exact ⟨rfl, fun _ => hopposite⟩

/-- The clauses by which several expressions are asked for and excluded: pairs of opposites, the
first of each as an alternative and the second as a requirement. -/
inductive Opposed (field : String) : Clauses → Clauses → Prop where
  | mk (pairs : List (Outcome × Outcome)) (hpairs : ∀ pair ∈ pairs, Opposite field pair.1 pair.2) :
      Opposed field ((pairs.map Prod.fst).map Outcome.alternative)
        ((pairs.map Prod.snd).map Outcome.required)

theorem opposed_nil (field : String) : Opposed field [] [] := .mk [] nofun

theorem opposed_one {asked excluded : Outcome} (h : Opposite field asked excluded) :
    Opposed field [asked.alternative] [excluded.required] :=
  .mk [(asked, excluded)] (by simpa using h)

theorem Opposed.append {asked excluded asked' excluded' : Clauses}
    (h : Opposed field asked excluded) (h' : Opposed field asked' excluded') :
    Opposed field (asked ++ asked') (excluded ++ excluded') := by
  obtain ⟨pairs, hpairs⟩ := h
  obtain ⟨pairs', hpairs'⟩ := h'
  rw [← List.map_append, ← List.map_append, ← List.map_append, ← List.map_append]
  exact .mk (pairs ++ pairs') (List.forall_mem_append.mpr ⟨hpairs, hpairs'⟩)

theorem clause?_opposed (w : Wording) (field : String) (l : Literal) :
    Option.Rel (Opposed field) (w.clause? field true l) (w.clause? field false l) := by
  unfold clause?
  cases l.isEmpty with
  | true =>
      cases w.handlesEmpty with
      | false => exact .some (opposed_nil field)
      | true => exact .some (opposed_one (opposite_absence field))
  | false =>
      cases w.expression? field l with
      | none => exact .none
      | some q => exact .some (opposed_one (opposite_negation field q))

/-- Several expressions are read on both sides or on neither, and then ask for opposites. -/
theorem clauses_opposed (w : Wording) (field : String) (literals : List Literal) :
    Option.Rel (fun asked excluded => Opposed field asked.flatten excluded.flatten)
      (literals.mapM (w.clause? field true)) (literals.mapM (w.clause? field false)) := by
  induction literals with
  | nil => exact .some (opposed_nil field)
  | cons l rest ih =>
      rw [List.mapM_cons, List.mapM_cons]
      have hfirst := clause?_opposed w field l
      generalize w.clause? field true l = asked?, w.clause? field false l = excluded? at hfirst ⊢
      cases hfirst with
      | none => exact .none
      | some hfirst =>
          generalize rest.mapM (w.clause? field true) = asked?,
            rest.mapM (w.clause? field false) = excluded? at ih ⊢
          cases ih with
          | none => exact .none
          | some hrest => exact .some (hfirst.append hrest)

theorem ofSeveral_complementary (w : Wording) (field : String) (literals : List Literal) :
    Complementary field (w.ofSeveral field true literals) (w.ofSeveral field false literals) := by
  unfold ofSeveral
  have hclauses := clauses_opposed w field literals
  generalize literals.mapM (w.clause? field true) = asked?,
    literals.mapM (w.clause? field false) = excluded? at hclauses ⊢
  cases hclauses with
  | none => exact complementary_nothing field
  | @some asked excluded hclauses =>
      dsimp only
      generalize asked.flatten = asked, excluded.flatten = excluded at hclauses ⊢
      obtain ⟨pairs, hpairs⟩ := hclauses
      by_cases hsome : pairs = []
      · subst hsome
        exact complementary_nothing field
      · have hasked : ((pairs.map Prod.fst).map Outcome.alternative).isEmpty = false := by
          simpa using hsome
        have hexcluded : ((pairs.map Prod.snd).map Outcome.required).isEmpty = false := by
          simpa using hsome
        rw [hasked, hexcluded]
        have hopposite := opposite_guarded [] (fun _ _ => rfl) (opposite_conjunction hpairs hsome)
        exact ⟨rfl, fun _ => hopposite⟩

theorem ofLiterals_complementary (w : Wording) (field : String) (literals : List Literal) :
    Complementary field (w.ofLiterals field true literals) (w.ofLiterals field false literals) := by
  unfold ofLiterals
  split
  · exact complementary_nothing field
  · exact ⟨rfl, fun _ => opposite_absence field⟩
  · exact ofOne_complementary w field _
  · exact ofSeveral_complementary w field literals

/-- Asking for wording finds nothing exactly when excluding it does. Otherwise exactly one of the
two finds a document that shows the field and holds a value in it. -/
theorem like_complementary (w : Wording) (field : String) (literals : List Literal) :
    let like := w.outcome field .like (.single literals)
    let notLike := w.outcome field .notLike (.single literals)
    (like.isNothing = true ↔ notLike.isNothing = true) ∧
      (like.isNothing = false → ∀ d : Document, d.term ⟨"visiblefieldids", field⟩ = true →
        d.term ⟨"nonemptyfieldids", field⟩ = true →
        (like.toQuery.anchored.matchedBy d ^^ notLike.toQuery.anchored.matchedBy d) = true) := by
  intro like notLike
  obtain ⟨hnothing, hopposite⟩ := ofLiterals_complementary w field literals
  refine ⟨by rw [Bool.coe_iff_coe]; exact hnothing, ?_⟩
  intro hsome d hvisible hpresent
  have hholds : notLike.holds d = !like.holds d := hopposite hsome d ⟨hvisible, hpresent⟩
  rw [Outcome.toQuery_anchored_matchedBy, Outcome.toQuery_anchored_matchedBy, hholds,
    Bool.xor_not_self]

/-- An expression that only excludes, and the empty marker, for a document with a value. -/
theorem like_complementary_for_exclusion :
    let w : Wording := ⟨.english, true⟩
    let literals : List Literal := [.text "-cool", .empty]
    let like := w.outcome "summary" .like (.single literals)
    let notLike := w.outcome "summary" .notLike (.single literals)
    let d := Document.ofTerms
      [⟨"visiblefieldids", "summary"⟩, ⟨"nonemptyfieldids", "summary"⟩].contains
    like.isNothing = false ∧ d.term ⟨"visiblefieldids", "summary"⟩ = true ∧
      d.term ⟨"nonemptyfieldids", "summary"⟩ = true ∧ like.toQuery.anchored.matchedBy d = true ∧
      (like.toQuery.anchored.matchedBy d ^^ notLike.toQuery.anchored.matchedBy d) = true := by
  intro w literals like notLike d
  have hsome : like.isNothing = false := by decide +kernel
  have hfound : like.toQuery.anchored.matchedBy d = true := by decide +kernel
  exact ⟨hsome, rfl, rfl, hfound, (like_complementary w "summary" literals).2 hsome d rfl rfl⟩

end FilterCompiler.Rule.Wording
