import FilterCompiler.Proofs.Matching

/-!
Equality and membership divide the documents that hold a value: each of them is found by an
operator or by its negative counterpart, and never by both. Documents without value, and
those that do not show the field, are found by no negative operator. The two sides are built
in different ways and count their words differently, so what each of them finds is said
first, in terms of the words alone.
-/

namespace FilterCompiler.Rule.Membership

variable {m : Membership} {field : String} {d : Document}

/-- The document shows the field and holds a value in it. -/
def holdsValue (m : Membership) (field : String) (d : Document) : Bool :=
  d.term ⟨"visiblefieldids", field⟩ &&
    match m.sentinel with
    | none => d.term ⟨"nonemptyfieldids", field⟩
    | some word => !d.term ⟨field, word⟩

/-- A document that lists the field among those with a value also lists it among those it shows. -/
def MarkersAgree (field : String) (d : Document) : Prop :=
  d.term ⟨"nonemptyfieldids", field⟩ = true → d.term ⟨"visiblefieldids", field⟩ = true

theorem absent_matchedBy_of_holdsValue (hvalue : m.holdsValue field d = true) :
    (m.absent field).matchedBy d = false := by
  obtain ⟨-, hheld⟩ := Bool.and_eq_true_iff.mp hvalue
  unfold absent
  cases hsentinel : m.sentinel with
  | none =>
      rw [hsentinel] at hheld
      simp [Query.boolean_matchedBy, hheld]
  | some word =>
      rw [hsentinel, Bool.not_eq_true'] at hheld
      exact hheld

theorem present_matchedBy (hmarkers : MarkersAgree field d) :
    (m.present field).matchedBy d = m.holdsValue field d := by
  unfold present holdsValue
  cases m.sentinel with
  | none =>
      cases hpresent : d.term ⟨"nonemptyfieldids", field⟩ with
      | true => simp [hpresent, hmarkers hpresent]
      | false => simp [hpresent]
  | some word => simp [Query.boolean_matchedBy, Query.ofTerm_matchedBy, Bool.and_comm]

/-- A positive operator finds the documents with one of the words, absence being a word as well. -/
theorem anyOf_matchedBy (m : Membership) (field : String) (literals : List Literal) (d : Document) :
    (m.anyOf field literals).toQuery.matchedBy d =
      (m.words literals).any fun word => (m.wordQuery field word).matchedBy d := by
  unfold anyOf
  split
  · rename_i hwords
    rw [hwords]
    rfl
  · rename_i word hwords
    simp [hwords, Outcome.toQuery]
  · exact Query.alternatives_matchedBy d (m.wordQuery field) _

/-- A negative operator finds the documents with a value and without the words. Only where there are
words to exclude does it ask once more for the field to be shown. -/
theorem noneOf_matchedBy (m : Membership) (field : String) (literals : List Literal)
    (d : Document) :
    (m.noneOf field literals).toQuery.matchedBy d =
      ((m.present field).matchedBy d &&
        (((m.words literals).filterMap id).isEmpty || d.term ⟨"visiblefieldids", field⟩) &&
        !((m.words literals).filterMap id).any fun word => d.term ⟨field, word⟩) := by
  unfold noneOf
  split
  · rename_i hwords
    rw [hwords]
    simp [Outcome.toQuery]
  · rename_i hwords
    have hsome : ((m.words literals).filterMap id).isEmpty = false :=
      List.isEmpty_eq_false_iff.mpr hwords
    generalize (m.words literals).filterMap id = words at hsome
    have hall : ((words.map fun word => (Occurrence.mustNot, Query.ofTerm field word)).all
        fun clause => clause.1.admits (clause.2.matchedBy d)) =
          !words.any fun word => d.term ⟨field, word⟩ := by
      rw [List.all_map, List.not_any_eq_all_not]
      rfl
    rw [hsome, Bool.false_or, Outcome.toQuery, if_neg Bool.false_ne_true, Query.boolean_matchedBy,
      List.cons_append, List.all_cons, List.all_append, hall]
    cases hpresent : (m.present field).matchedBy d with
    | false => simp [hpresent]
    | true => simp [hpresent, Bool.and_comm]

/-- In a document that holds a value, only proper words are found. -/
theorem any_wordQuery_of_holdsValue (hvalue : m.holdsValue field d = true)
    (words : List (Option String)) :
    (words.any fun word => (m.wordQuery field word).matchedBy d) =
      (words.filterMap id).any fun word => d.term ⟨field, word⟩ := by
  induction words with
  | nil => rfl
  | cons word rest ih =>
      cases word with
      | none =>
          have habsent : (m.wordQuery field none).matchedBy d = false :=
            absent_matchedBy_of_holdsValue hvalue
          rw [List.any_cons, habsent, Bool.false_or, ih]
          rfl
      | some word =>
          rw [List.any_cons, ih]
          rfl

/-- What a positive operator finds and what its counterpart finds are opposites in
a document that holds a value. -/
theorem anyOf_xor_noneOf (hmarkers : MarkersAgree field d) (hvalue : m.holdsValue field d = true)
    (literals : List Literal) :
    ((m.anyOf field literals).toQuery.matchedBy d ^^
      (m.noneOf field literals).toQuery.matchedBy d) = true := by
  have hvisible : d.term ⟨"visiblefieldids", field⟩ = true := (Bool.and_eq_true_iff.mp hvalue).1
  rw [anyOf_matchedBy, noneOf_matchedBy, any_wordQuery_of_holdsValue hvalue,
    present_matchedBy hmarkers, hvalue, hvisible, Bool.or_true, Bool.and_true, Bool.true_and,
    Bool.xor_not_self]

theorem noneOf_eq_false (hmarkers : MarkersAgree field d) (hvalue : m.holdsValue field d = false)
    (literals : List Literal) : (m.noneOf field literals).toQuery.matchedBy d = false := by
  rw [noneOf_matchedBy, present_matchedBy hmarkers, hvalue, Bool.false_and, Bool.false_and]

/-- Exactly one of an operator and its negative counterpart finds a document that
holds a value, and no negative operator finds any other document. The queries are
matched as they are, without anchoring. -/
theorem membership_divides_values (m : Membership) (field : String) (literals : List Literal)
    (d : Document) (hmarkers : MarkersAgree field d) :
    let finds operator argument := (m.outcome field operator argument).toQuery.matchedBy d
    (m.holdsValue field d = true →
      (finds .among (.list literals) ^^ finds .notAmong (.list literals)) = true ∧
        (finds .equals (.single literals) ^^ finds .notEquals (.single literals)) = true ∧
        (finds .is (.single literals) ^^ finds .isNot (.single literals)) = true) ∧
      (m.holdsValue field d = false →
        finds .notAmong (.list literals) = false ∧ finds .notEquals (.single literals) = false ∧
          finds .isNot (.single literals) = false) := by
  constructor
  · intro hvalue
    have hdivided := anyOf_xor_noneOf hmarkers hvalue literals
    exact ⟨hdivided, hdivided, hdivided⟩
  · intro hvalue
    have hunfound := noneOf_eq_false hmarkers hvalue literals
    exact ⟨hunfound, hunfound, hunfound⟩

/-- The empty marker, a literal with two words and one without words, for a document whose component
is one of the two words and for one that shows the field without a value. With a sentinel, a
document holds another component, but does not show the field: it is not found by what it is not. -/
theorem membership_divides_values_of_component :
    let values : Literal → List String
      | .text _ => ["core", "10001"]
      | _ => []
    let unmarked : Membership := ⟨values, none⟩
    let marked : Membership := ⟨values, some "-1"⟩
    let literals : List Literal := [.empty, .text "Core", .number 7]
    let shown : Term := ⟨"visiblefieldids", "component"⟩
    let filled := Document.ofTerms
      [shown, ⟨"nonemptyfieldids", "component"⟩, ⟨"component", "10001"⟩].contains
    let bare := Document.ofTerms [shown].contains
    let hidden := Document.ofTerms [⟨"component", "docs"⟩].contains
    let finds (m : Membership) operator argument (d : Document) :=
      (m.outcome "component" operator argument).toQuery.matchedBy d
    (MarkersAgree "component" filled ∧ unmarked.holdsValue "component" filled = true ∧
        finds unmarked .among (.list literals) filled = true ∧
        (finds unmarked .among (.list literals) filled ^^
          finds unmarked .notAmong (.list literals) filled) = true) ∧
      (MarkersAgree "component" bare ∧ unmarked.holdsValue "component" bare = false ∧
        finds unmarked .notAmong (.list literals) bare = false) ∧
      MarkersAgree "component" hidden ∧ marked.holdsValue "component" hidden = false ∧
        finds marked .notEquals (.single literals) hidden = false ∧
        finds marked .notEquals (.single literals)
          (Document.ofTerms [shown, ⟨"component", "docs"⟩].contains) = true := by
  intro values unmarked marked literals shown filled bare hidden finds
  have hfilled : MarkersAgree "component" filled := fun _ => rfl
  have hbare : MarkersAgree "component" bare := fun _ => rfl
  have hhidden : MarkersAgree "component" hidden := nofun
  have hdivided := (membership_divides_values unmarked _ literals filled hfilled).1 rfl
  have hvalueless := (membership_divides_values unmarked _ literals bare hbare).2 rfl
  have hunshown := (membership_divides_values marked _ literals hidden hhidden).2 rfl
  exact ⟨⟨hfilled, rfl, rfl, hdivided.1⟩, ⟨hbare, rfl, hvalueless.1⟩, hhidden, rfl, hunshown.2.1,
    rfl⟩

end FilterCompiler.Rule.Membership
