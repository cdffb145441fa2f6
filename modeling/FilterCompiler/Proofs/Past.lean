import FilterCompiler.Proofs.Digits
import FilterCompiler.Proofs.Holding

/-!
Questions about the past select the documents that the store answers with. A positive and a negative
operator put the same search and differ in a flag, which is not set where nothing is found: what the
store does not know is not excluded. A negation around the question turns the flag once more.

The search is stated here by itself, from the operand and from the encodings in the
order in which they were registered.
-/

namespace FilterCompiler

namespace Outcome

/-- The outcome stands for the documents with these numbers, or for all others if they are excluded.
The query is matched as it is, without anchoring. -/
def Selects (o : Outcome) (ids : List Nat) (excluded : Bool) : Prop :=
  ∀ (id : Nat) (d : Document), d.Holds "docid" (toString id) →
    (o.query.matchedBy d ^^ o.negated) = (ids.contains id ^^ excluded)

variable {o : Outcome} {ids : List Nat} {excluded : Bool}

theorem Selects.negate (h : o.Selects ids excluded) : o.negate.Selects ids (!excluded) := by
  intro id d hd
  rw [Outcome.negate, Bool.xor_not, Bool.xor_not, h id d hd]

/-- The flag is turned where something is found. -/
theorem Selects.complement (h : o.Selects ids excluded) (hsome : o.isNothing = false) :
    o.complement.Selects ids (!excluded) := by
  rw [Outcome.complement, hsome]
  exact h.negate

end Outcome

namespace History

/-- A history after encodings have been registered one after the other. -/
def registered (store : Search → List Nat) (resolver : Resolver)
    (registrations : List (String × (Literal → List String))) : History :=
  registrations.foldl (fun h r => h.withEncoding r.1 r.2) ⟨store, resolver, []⟩

theorem foldl_withEncoding (h : History) (registrations : List (String × (Literal → List String))) :
    registrations.foldl (fun h r => h.withEncoding r.1 r.2) h =
      { h with encodings :=
          (registrations.map fun r => (Text.lower r.1, r.2)).reverse ++ h.encodings } := by
  induction registrations generalizing h with
  | nil => rfl
  | cons r rest ih =>
      rw [List.foldl_cons, ih]
      simp [withEncoding]

theorem registered_store (store : Search → List Nat) (resolver : Resolver)
    (registrations : List (String × (Literal → List String))) :
    (registered store resolver registrations).store = store := by
  rw [registered, foldl_withEncoding]

theorem registered_resolver (store : Search → List Nat) (resolver : Resolver)
    (registrations : List (String × (Literal → List String))) :
    (registered store resolver registrations).resolver = resolver := by
  rw [registered, foldl_withEncoding]

/-- The words of a literal by the latest encoding that was registered for the field under its name
in any case; the text of the literal if there is none. -/
def wordsBy (registrations : List (String × (Literal → List String))) (field : String)
    (l : Literal) : List String :=
  match registrations.reverse.find? fun r => Text.lower r.1 == Text.lower field with
  | some r => r.2 l
  | none => l.text?.toList

theorem registered_words (store : Search → List Nat) (resolver : Resolver)
    (registrations : List (String × (Literal → List String))) (field : String) :
    (registered store resolver registrations).words (Text.lower field) =
      wordsBy registrations field := by
  have hlookup : (registered store resolver registrations).encodings.lookup (Text.lower field) =
      (registrations.reverse.find? fun r => Text.lower r.1 == Text.lower field).map Prod.snd := by
    rw [registered, foldl_withEncoding, List.append_nil, ← List.map_reverse]
    induction registrations.reverse with
    | nil => rfl
    | cons r rest ih =>
        have hname : (Text.lower r.1 == Text.lower field) = (Text.lower field == Text.lower r.1) :=
          BEq.comm
        simp only [List.map_cons, List.lookup_cons, List.find?_cons, ih, hname]
        cases Text.lower field == Text.lower r.1 <;> rfl
  funext l
  rw [words, hlookup, wordsBy]
  cases registrations.reverse.find? _ <;> rfl

/-- What is found are the documents of the store's answer. -/
theorem documents_selects (h : History) (s : Search) :
    (h.documents s).Selects (h.store s) false := by
  intro id d hd
  have hdocument (other : Nat) : (Query.document other).matchedBy d = (id == other) := by
    rw [Query.document, Query.documentMarker, hd.ofTerm_matchedBy, Bool.eq_iff_iff, beq_iff_eq,
      beq_iff_eq, Text.toString_injective.eq_iff, eq_comm]
  unfold documents
  split
  · rename_i hnone
    simp [hnone, Outcome.nothing, Query.nothing, Query.boolean_matchedBy]
  · simp [Query.boolean_matchedBy, List.all_map, List.any_map, Function.comp_def, hdocument,
      List.any_beq]

theorem documents_isNothing {h : History} {s : Search} (hstore : h.store s ≠ []) :
    (h.documents s).isNothing = false := by
  obtain ⟨id, ids, hids⟩ := List.exists_cons_of_ne_nil hstore
  rw [documents, hids]
  rfl

theorem documents_eq_nothing {h : History} {s : Search} (hstore : h.store s = []) :
    h.documents s = .nothing := by
  rw [documents, hstore]

/-- To exclude what is found is not to find nothing. -/
theorem documents_complement_isNothing {h : History} {s : Search} (hstore : h.store s ≠ []) :
    (h.documents s).complement.isNothing = false := by
  have hpositive : (h.documents s).negated = false := by
    unfold documents
    split <;> rfl
  rw [Outcome.complement, documents_isNothing hstore]
  simp [Outcome.isNothing, Outcome.negate, hpositive]

/-- The operators that ask for past values: what the store is asked for, and
whether its answer is excluded. -/
inductive Asks : Operator → Operator → Bool → Prop where
  | was : Asks .was .was false
  | wasNot : Asks .wasNot .was true
  | wasAmong : Asks .wasAmong .wasAmong false
  | wasNotAmong : Asks .wasNotAmong .wasAmong true

theorem Asks.search {operator asked : Operator} {excluded : Bool}
    (h : Asks operator asked excluded) :
    searchOperator? operator = some asked ∧ operator.isNegative = excluded := by
  cases h <;> exact ⟨rfl, rfl⟩

section Searches

variable (resolver : Resolver) (registrations : List (String × (Literal → List String)))
  (caller : Caller)

def resolvedQualifiers (field : String) (qs : List Qualifier) : List ResolvedQualifier :=
  qs.map fun q => ⟨q.relation, resolver.literals caller field q.operand⟩

/-- The search for past values: the words of the literals that are not the empty marker in their
order, and whether the marker is among them. -/
def searchFor (p : PastValue) (asked : Operator) : Search where
  field := Text.lower p.field
  operator := asked
  values := ((resolver.literals caller p.field p.operand).filter (!·.isEmpty)).flatMap
    (wordsBy registrations p.field)
  includeEmpty := (resolver.literals caller p.field p.operand).contains .empty
  qualifiers := resolvedQualifiers resolver caller p.field p.qualifiers

def searchForChange (c : Change) : Search where
  field := Text.lower c.field
  operator := .changed
  values := []
  includeEmpty := false
  qualifiers := resolvedQualifiers resolver caller c.field c.qualifiers

variable {resolver registrations caller} {store : Search → List Nat} {p : PastValue}
  {asked : Operator} {excluded : Bool}

theorem registered_past_of_not_asks (hasks : ∀ asked excluded, ¬Asks p.operator asked excluded) :
    (registered store resolver registrations).past caller p = .nothing := by
  have hoperator : searchOperator? p.operator = none := by
    unfold searchOperator?
    split
    · rename_i h
      exact absurd (h ▸ .was) (hasks .was false)
    · rename_i h
      exact absurd (h ▸ .wasNot) (hasks .was true)
    · rename_i h
      exact absurd (h ▸ .wasAmong) (hasks .wasAmong false)
    · rename_i h
      exact absurd (h ▸ .wasNotAmong) (hasks .wasAmong true)
    · rfl
  simp [past, pastSearch?, hoperator]

/-- The search of a question, unless there is nothing to look for. -/
theorem registered_pastSearch?_of_asks (hasks : Asks p.operator asked excluded) :
    (registered store resolver registrations).pastSearch? caller p =
      let s := searchFor resolver registrations caller p asked
      if s.values.isEmpty && !s.includeEmpty then none else some s := by
  have hmarker (literals : List Literal) : literals.any (·.isEmpty) = literals.contains .empty := by
    have hempty (l : Literal) : l.isEmpty = (.empty == l) := by cases l <;> rfl
    simp only [hempty, List.any_beq]
  simp only [pastSearch?, hasks.search.1, registered_resolver, registered_words, hmarker, resolve,
    searchFor, resolvedQualifiers]
  rfl

theorem registered_past_eq_nothing (hasks : Asks p.operator asked excluded)
    (hvalues : (searchFor resolver registrations caller p asked).values = [])
    (hempty : (searchFor resolver registrations caller p asked).includeEmpty = false) :
    (registered store resolver registrations).past caller p = .nothing := by
  rw [past, registered_pastSearch?_of_asks hasks]
  dsimp only
  rw [if_pos (by simp [hvalues, hempty])]

/-- A question is answered with the documents of its search, or without them. -/
theorem registered_past_of_asks (hasks : Asks p.operator asked excluded)
    (hsearch : (searchFor resolver registrations caller p asked).values ≠ [] ∨
      (searchFor resolver registrations caller p asked).includeEmpty = true) :
    (registered store resolver registrations).past caller p =
      let found := (registered store resolver registrations).documents
        (searchFor resolver registrations caller p asked)
      if excluded then found.complement else found := by
  rw [past, registered_pastSearch?_of_asks hasks]
  dsimp only
  rw [if_neg (by simpa [or_iff_not_imp_left] using hsearch), hasks.search.2]

theorem registered_past_of_store_eq_nil (hasks : Asks p.operator asked excluded)
    (hstore : store (searchFor resolver registrations caller p asked) = []) :
    (registered store resolver registrations).past caller p = .nothing := by
  by_cases hsearch : (searchFor resolver registrations caller p asked).values ≠ [] ∨
      (searchFor resolver registrations caller p asked).includeEmpty = true
  · rw [registered_past_of_asks hasks hsearch, documents_eq_nothing (by rwa [registered_store])]
    cases excluded <;> rfl
  · rw [not_or, not_not, Bool.not_eq_true] at hsearch
    exact registered_past_eq_nothing hasks hsearch.1 hsearch.2

/-- Where the store has an answer, the question and its negation select by it. -/
theorem registered_past_selects (hasks : Asks p.operator asked excluded)
    (hsearch : (searchFor resolver registrations caller p asked).values ≠ [] ∨
      (searchFor resolver registrations caller p asked).includeEmpty = true)
    (hstore : store (searchFor resolver registrations caller p asked) ≠ []) :
    let past := (registered store resolver registrations).past caller p
    let answer := store (searchFor resolver registrations caller p asked)
    past.Selects answer excluded ∧ past.complement.Selects answer !excluded := by
  have hfound := documents_selects (registered store resolver registrations)
    (searchFor resolver registrations caller p asked)
  have hanswer : (registered store resolver registrations).store
      (searchFor resolver registrations caller p asked) ≠ [] := by
    rwa [registered_store]
  have hexcluded := hfound.complement (documents_isNothing hanswer)
  rw [registered_store] at hfound hexcluded
  rw [registered_past_of_asks hasks hsearch]
  cases excluded with
  | false => exact ⟨hfound, hexcluded⟩
  | true => exact ⟨hexcluded, hexcluded.complement (documents_complement_isNothing hanswer)⟩

theorem registered_change (c : Change) :
    (registered store resolver registrations).change caller c =
      (registered store resolver registrations).documents (searchForChange resolver caller c) := by
  rw [change, changeSearch, resolve, registered_resolver]
  rfl

end Searches

end History

theorem Environment.visit_not_leaf (e : Environment) (limit : Nat) (caller : Caller) {leaf : Filter}
    (hleaf : leaf.isLeaf = true) :
    e.visit limit caller (.not leaf) = .ok (e.outcome caller leaf).complement := by
  rw [visit, Filter.check, if_pos hleaf]
  rfl

namespace History

/-- Past values are searched for in the store, and the question selects the documents of the answer
or all others, as its operator says; without an operator for past values, without anything to look
for and without an answer there is nothing to select. Changes are searched for alike. A negation
around a question selects the other documents, and leaves nothing as nothing. -/
theorem questions_select_answer_of_store (store : Search → List Nat) (resolver : Resolver)
    (registrations : List (String × (Literal → List String))) (catalog : Catalog) (limit : Nat)
    (caller : Caller) (p : PastValue) (c : Change) :
    let history := registered store resolver registrations
    let past := history.past caller p
    let change := history.change caller c
    let negation (leaf : Filter) := (Environment.of catalog history).visit limit caller (.not leaf)
    ((∀ asked excluded, ¬Asks p.operator asked excluded) → past = .nothing) ∧
      (∀ asked excluded, Asks p.operator asked excluded →
        let s := searchFor resolver registrations caller p asked
        (s.values = [] → s.includeEmpty = false → past = .nothing) ∧
          (store s = [] → past = .nothing) ∧
          (s.values ≠ [] ∨ s.includeEmpty = true → store s ≠ [] →
            past.Selects (store s) excluded ∧
              ∃ o, negation (.past p) = .ok o ∧ o.Selects (store s) !excluded)) ∧
      (past = .nothing → negation (.past p) = .ok .nothing) ∧
      let s := searchForChange resolver caller c
      (store s = [] → change = .nothing ∧ negation (.change c) = .ok .nothing) ∧
        (store s ≠ [] → change.Selects (store s) false ∧
          ∃ o, negation (.change c) = .ok o ∧ o.Selects (store s) true) := by
  intro history past change negation
  have hpast : negation (.past p) = .ok past.complement := Environment.visit_not_leaf _ _ _ rfl
  have hchange : negation (.change c) = .ok change.complement :=
    Environment.visit_not_leaf _ _ _ rfl
  have hchanged : change = history.documents (searchForChange resolver caller c) :=
    registered_change c
  have hstored : history.store = store := registered_store store resolver registrations
  refine ⟨registered_past_of_not_asks, ?_, ?_, ?_, ?_⟩
  · intro asked excluded hasks
    refine ⟨registered_past_eq_nothing hasks, registered_past_of_store_eq_nil hasks, ?_⟩
    intro hsearch hanswer
    have hselects := registered_past_selects hasks hsearch hanswer
    exact ⟨hselects.1, past.complement, hpast, hselects.2⟩
  · intro hnothing
    rw [hpast, hnothing]
    rfl
  · intro hanswer
    have hnothing : change = .nothing := by
      rw [hchanged, documents_eq_nothing (by rwa [hstored])]
    refine ⟨hnothing, ?_⟩
    rw [hchange, hnothing]
    rfl
  · intro hanswer
    have hselects : change.Selects (store (searchForChange resolver caller c)) false := by
      rw [hchanged, ← hstored]
      exact documents_selects history _
    have hsome : change.isNothing = false := by
      rw [hchanged]
      apply documents_isNothing
      rwa [hstored]
    exact ⟨hselects, change.complement, hchange, hselects.complement hsome⟩

/-- The encoding is registered under the name in another case, and the marker stands among the
literals. Document 5 is not in the answer, so it is among those that never were open. -/
theorem questions_select_answer_of_store_without_open :
    let status : Literal → List String
      | .text "open" => ["10001"]
      | _ => []
    let store (s : Search) := if s.values = ["10001"] ∧ s.includeEmpty then [4, 11] else []
    let history := registered store Functions.empty.resolver [("STATUS", status)]
    let caller : Caller := ⟨none, false⟩
    let p : PastValue := ⟨"Status", .wasNot, .list [.text "open", .empty, .text "closed"], []⟩
    let past := history.past caller p
    let fifth := Document.ofWord "docid" (toString 5)
    past.Selects [4, 11] true ∧ (past.query.matchedBy fifth ^^ past.negated) = true ∧
      ∃ o, (Environment.of .empty history).visit 1000 caller (.not (.past p)) = .ok o ∧
        o.Selects [4, 11] false := by
  intro status store history caller p past fifth
  have hvalues : (searchFor Functions.empty.resolver [("STATUS", status)] caller p .was).values =
      ["10001"] := by cbv
  have hstore : store (searchFor Functions.empty.resolver [("STATUS", status)] caller p .was) =
      [4, 11] := if_pos ⟨hvalues, rfl⟩
  have hselects := ((questions_select_answer_of_store store Functions.empty.resolver
    [("STATUS", status)] .empty 1000 caller p ⟨"status", []⟩).2.1 .was true .wasNot).2.2 (.inr rfl)
    (by simp [hstore])
  rw [hstore] at hselects
  exact ⟨hselects.1, hselects.1 5 fifth (Document.ofWord_holds ..), hselects.2⟩

end History

end FilterCompiler
