import FilterCompiler.Proofs.Partition

/-!
There are two ways to ask for documents without a value: by the empty operand, and by
literals that are the empty marker. Repeated markers make a list of alternatives, and a
negative operator adds to the presence of a value what it excludes, so the queries differ in
form. They find the same documents.
-/

namespace FilterCompiler.Rule.Membership

theorem words_replicate_empty (m : Membership) (n : Nat) :
    m.words (List.replicate n .empty) = List.replicate n m.sentinel := by
  induction n with
  | zero => rfl
  | succ n ih =>
      have hfirst : m.words (.empty :: List.replicate n .empty) =
          m.sentinel :: m.words (List.replicate n .empty) := rfl
      rw [List.replicate_succ, hfirst, ih, List.replicate_succ]

/-- The word for absence, be there a sentinel or not, asks for absence. -/
theorem wordQuery_sentinel (m : Membership) (field : String) :
    m.wordQuery field m.sentinel = m.absent field := by
  unfold absent
  cases hsentinel : m.sentinel with
  | none => simp [wordQuery, absent, hsentinel]
  | some word => rfl

theorem anyOf_empty (m : Membership) (field : String) :
    m.anyOf field [.empty] = ⟨m.absent field, false⟩ := by
  have hword : m.words [.empty] = [m.sentinel] := m.words_replicate_empty 1
  simp only [anyOf, hword, wordQuery_sentinel]

theorem anyOf_empties_matchedBy (m : Membership) (field : String) (n : Nat) (d : Document) :
    (m.anyOf field (List.replicate (n + 1) .empty)).toQuery.matchedBy d =
      (m.absent field).matchedBy d := by
  rw [anyOf_matchedBy, words_replicate_empty, List.any_replicate, if_neg (Nat.succ_ne_zero n),
    wordQuery_sentinel]

/-- A value that is not the sentinel is a value: what the markers exclude,
presence excludes already, and it asks for the field to be shown as well. Without
a sentinel there is nothing to exclude. -/
theorem noneOf_empties_matchedBy (m : Membership) (field : String) (n : Nat) (d : Document) :
    (m.noneOf field (List.replicate (n + 1) .empty)).toQuery.matchedBy d =
      (m.present field).matchedBy d := by
  rw [noneOf_matchedBy, words_replicate_empty]
  cases hsentinel : m.sentinel with
  | none =>
      have hwords : (List.replicate (n + 1) (none : Option String)).filterMap id = [] := by simp
      rw [hwords]
      simp
  | some word =>
      have hwords : (List.replicate (n + 1) (some word)).filterMap id =
          List.replicate (n + 1) word := by simp
      have hpresent : (m.present field).matchedBy d =
          (d.term ⟨"visiblefieldids", field⟩ && !d.term ⟨field, word⟩) := by
        simp [present, hsentinel, Query.boolean_matchedBy, Query.ofTerm_matchedBy, Bool.and_comm]
      rw [hwords, hpresent, List.any_replicate, if_neg (Nat.succ_ne_zero n)]
      cases d.term ⟨"visiblefieldids", field⟩ <;> simp

/-- One or more empty markers find what the empty operand finds, by each operator of the family. A
single marker under a positive operator even has the same outcome. -/
theorem empties_found_as_empty_operand (m : Membership) (field : String) (n : Nat) (d : Document) :
    let empties := List.replicate (n + 1) Literal.empty
    let finds operator argument := (m.outcome field operator argument).toQuery.matchedBy d
    (finds .equals (.single empties) = finds .equals .empty ∧
      finds .is (.single empties) = finds .is .empty ∧
      finds .notEquals (.single empties) = finds .notEquals .empty ∧
      finds .isNot (.single empties) = finds .isNot .empty ∧
      finds .among (.list empties) = finds .among .empty ∧
      finds .notAmong (.list empties) = finds .notAmong .empty) ∧
      m.outcome field .equals (.single [.empty]) = m.outcome field .equals .empty ∧
      m.outcome field .is (.single [.empty]) = m.outcome field .is .empty ∧
      m.outcome field .among (.list [.empty]) = m.outcome field .among .empty := by
  intro empties finds
  have hany := m.anyOf_empties_matchedBy field n d
  have hnone := m.noneOf_empties_matchedBy field n d
  have hone := m.anyOf_empty field
  exact ⟨⟨hany, hany, hnone, hnone, hany, hnone⟩, hone, hone, hone⟩

end FilterCompiler.Rule.Membership
