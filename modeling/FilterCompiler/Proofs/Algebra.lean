import FilterCompiler.Proofs.Matching

/-!
Outcomes as a boolean algebra of sets of documents. An outcome keeps its negation beside its query,
and its query may itself find nothing or only exclude; whichever way it is put together with others,
the documents it stands for are combined by the operation that was meant. Merging leaves out
outcomes without documents and does not wrap one that is left alone, which changes queries and no
documents: in which order and in which groups outcomes are merged cannot be told from what is found.
-/

namespace FilterCompiler.Outcome

theorem negate_holds (d : Document) (o : Outcome) : o.negate.holds d = !o.holds d := by
  simp [negate, holds]

/-- Outcomes without documents can be left out of a disjunction. -/
theorem any_holds_filter (d : Document) (os : List Outcome) :
    (os.filter (!·.isNothing)).any (holds d) = os.any (holds d) := by
  have hleft (o : Outcome) : (!o.isNothing && o.holds d) = o.holds d := by
    cases hnothing : o.isNothing with
    | true => simp [holds_eq_false_of_isNothing hnothing]
    | false => simp
  simp only [List.any_filter, hleft]

/-- Merged outcomes stand for what one of them stands for. -/
theorem merge_holds (d : Document) (os : List Outcome) : (merge os).holds d = os.any (holds d) := by
  rw [← any_holds_filter, merge]
  split
  · rename_i hnone
    rw [hnone]
    rfl
  · rename_i o hone
    rw [hone, List.any_cons, List.any_nil, Bool.or_false]
  · exact disjunction_holds d _

/-- Merging finds nothing only where there is nothing to merge. -/
theorem merge_isNothing (os : List Outcome) : (merge os).isNothing = os.all isNothing := by
  have hleft (o : Outcome) (hmember : o ∈ os.filter (!·.isNothing)) :
      o.isNothing = false ∧ os.all isNothing = false := by
    obtain ⟨hos, hsome⟩ := List.mem_filter.mp hmember
    rw [Bool.not_eq_true'] at hsome
    exact ⟨hsome, List.all_eq_false.mpr ⟨o, hos, by simp [hsome]⟩⟩
  unfold merge
  split
  · rename_i hnone
    have hall : os.all isNothing = true := by
      apply List.all_eq_true.mpr
      intro o hmember
      simpa using List.filter_eq_nil_iff.mp hnone o hmember
    rw [hall]
    rfl
  · rename_i o hone
    obtain ⟨hsome, hall⟩ := hleft o (by simp [hone])
    rw [hsome, hall]
  · rename_i rest hnone _
    cases hrest : os.filter (!·.isNothing) with
    | nil => exact absurd hrest hnone
    | cons o others =>
        obtain ⟨-, hall⟩ := hleft o (by simp [hrest])
        rw [hall]
        rfl

/-- A guarded outcome is the conjunction with the marker, except that nothing stays nothing. -/
theorem guarded_holds (d : Document) (field : String) (o : Outcome) :
    (guarded field o).holds d = (o.holds d && d.term ⟨"visiblefieldids", field⟩) := by
  unfold guarded
  cases hnothing : o.isNothing with
  | true => simp [holds_eq_false_of_isNothing hnothing]
  | false =>
      have hmarker : (⟨.visible field, false⟩ : Outcome).holds d =
          d.term ⟨"visiblefieldids", field⟩ := by
        simp [holds]
      calc
        (⟨.boolean [o.required, (.must, .visible field)], false⟩ : Outcome).holds d
          = (conjunction [o, ⟨.visible field, false⟩]).holds d := rfl
        _ = (o.holds d && d.term ⟨"visiblefieldids", field⟩) := by
          simp [conjunction_holds, hmarker]

/-- An outcome that comes from merging other outcomes, each of them once, in any order and in groups
that may have been merged from groups in turn. -/
inductive MergedFrom : Outcome → List Outcome → Prop where
  | one (o : Outcome) : MergedFrom o [o]
  | group (parts : List (Outcome × List Outcome))
      (hparts : ∀ part ∈ parts, MergedFrom part.1 part.2) :
      MergedFrom (merge (parts.map Prod.fst)) (parts.flatMap Prod.snd)
  | reorder {o : Outcome} {os os' : List Outcome} (hmerged : MergedFrom o os)
      (horder : os.Perm os') : MergedFrom o os'

/-- However outcomes are merged, the result stands for what one of them stands for. -/
theorem MergedFrom.holds_eq_any {o : Outcome} {os : List Outcome} (h : MergedFrom o os)
    (d : Document) : o.holds d = os.any (holds d) := by
  induction h with
  | one o => simp
  | group parts _ ih =>
      have hparts : (parts.map fun part => part.1.holds d) =
          parts.map fun part => part.2.any (holds d) := List.map_congr_left ih
      calc
        (merge (parts.map Prod.fst)).holds d = (parts.map fun part => part.1.holds d).any id := by
          simp [merge_holds, List.any_map, Function.comp_def]
        _ = (parts.map fun part => part.2.any (holds d)).any id := by rw [hparts]
        _ = (parts.flatMap Prod.snd).any (holds d) := by
          simp [List.any_map, List.any_flatMap]
  | reorder _ horder ih => rw [ih, horder.any_eq]

/-- Merging is union, negation is complement, guarding is intersection with the documents that have
the field's word among their visible fields, and outcomes placed as clauses of a boolean are
intersected or united. Merging in another order or in groups gives the same documents, and nothing
only if nothing was merged. -/
theorem outcomes_form_boolean_algebra (d : Document) (field : String) (o : Outcome)
    (os : List Outcome) :
    (merge os).holds d = os.any (holds d) ∧
      (∀ merged, MergedFrom merged os → merged.holds d = (merge os).holds d) ∧
      ((merge os).isNothing = true ↔ ∀ o ∈ os, o.isNothing = true) ∧
      o.negate.holds d = !o.holds d ∧
      (guarded field o).holds d = (o.holds d && d.term ⟨"visiblefieldids", field⟩) ∧
      (os ≠ [] → (conjunction os).holds d = os.all (holds d)) ∧
      (disjunction os).holds d = os.any (holds d) := by
  refine ⟨merge_holds d os, ?_, ?_, negate_holds d o, guarded_holds d field o, ?_,
    disjunction_holds d os⟩
  · intro merged hmerged
    rw [hmerged.holds_eq_any, merge_holds]
  · rw [merge_isNothing, List.all_eq_true]
  · intro hos
    have hsome : os.isEmpty = false := List.isEmpty_eq_false_iff.mpr hos
    rw [conjunction_holds, hsome, Bool.not_false, Bool.true_and]

/-- A query that only excludes, a negated query and nothing at all, merged in another order and in
two groups, for a document that only the negated one stands for. The document does not show the
field, so guarding takes it from the negated query, and keeps one that shows the field. -/
theorem outcomes_form_boolean_algebra_in_groups :
    let excluding : Outcome := ⟨.excluding (.ofTerm "status" "open"), false⟩
    let negated : Outcome := ⟨.ofTerm "status" "closed", true⟩
    let os := [excluding, negated, nothing]
    let merged := merge [merge [nothing, excluding], negated]
    let d := Document.ofTerms fun t => t.text == "open"
    let shown := Document.ofTerms [⟨"visiblefieldids", "status"⟩].contains
    (MergedFrom merged os ∧ os ≠ [] ∧ merged.holds d = true ∧
        merged.holds d = (merge os).holds d ∧ (conjunction os).holds d = os.all (holds d)) ∧
      negated.holds d = true ∧ (guarded "status" negated).holds d = false ∧
        (guarded "status" negated).holds shown = true := by
  intro excluding negated os merged d shown
  have hmerged : MergedFrom merged os := by
    have hinner : MergedFrom (merge [nothing, excluding]) [nothing, excluding] := by
      refine .group [(nothing, [nothing]), (excluding, [excluding])] ?_
      simp [MergedFrom.one]
    have houter : MergedFrom merged [nothing, excluding, negated] := by
      refine .group [(merge [nothing, excluding], [nothing, excluding]), (negated, [negated])] ?_
      simp [hinner, MergedFrom.one]
    have horder : ([nothing] ++ [excluding, negated]).Perm os := List.perm_append_comm
    exact houter.reorder horder
  have hos : os ≠ [] := by simp [os]
  obtain ⟨-, hsame, -, -, hhidden, hall, -⟩ := outcomes_form_boolean_algebra d "status" negated os
  obtain ⟨-, -, -, -, hshown, -, -⟩ := outcomes_form_boolean_algebra shown "status" negated os
  exact ⟨⟨hmerged, hos, rfl, hsame merged hmerged, hall hos⟩, rfl, hhidden.trans rfl,
    hshown.trans rfl⟩

end FilterCompiler.Outcome
