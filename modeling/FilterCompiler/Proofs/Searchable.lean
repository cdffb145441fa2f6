import FilterCompiler.Compilation
import FilterCompiler.Proofs.Construction
import FilterCompiler.Proofs.Registration

/-!
Answers to conditions are nothing, or can be searched for as they stand. An empty boolean inside a
query would spoil what is around it: required, it keeps everything out, and excluded, it lets
everything through. No field has such an answer, whatever its kind and whatever the condition, and
the answers of several fields under one name do not become one when they are merged.
-/

namespace FilterCompiler

namespace Outcome

/-- Not negated, and nothing or without an empty boolean at any depth. -/
structure Clean (o : Outcome) : Prop where
  not_negated : o.negated = false
  query : o.query = .nothing ∨ o.query.Searchable

theorem BuiltFor.clean {field : String} {o : Outcome} (h : o.BuiltFor field) : o.Clean := by
  cases h with
  | nothing => exact ⟨rfl, Or.inl rfl⟩
  | query h => exact ⟨rfl, Or.inr h.searchable⟩

theorem Clean.searchable {o : Outcome} (h : o.Clean) (hsome : o.isNothing = false) :
    o.query.Searchable := by
  rcases h.query with hnothing | hsearchable
  · simp [isNothing, h.not_negated, hnothing, Query.isNothing, Query.nothing] at hsome
  · exact hsearchable

/-- What is left to merge has no empty boolean, so the alternatives have none either. -/
theorem merge_clean {os : List Outcome} (h : ∀ o ∈ os, o.Clean) : (merge os).Clean := by
  have hkept (o : Outcome) (hmember : o ∈ os.filter (!·.isNothing)) :
      o.Clean ∧ o.query.Searchable := by
    obtain ⟨hos, hsome⟩ := List.mem_filter.mp hmember
    exact ⟨h o hos, (h o hos).searchable (by simpa using hsome)⟩
  unfold merge
  split
  · exact ⟨rfl, Or.inl rfl⟩
  · rename_i o hone
    exact (hkept o (by simp [hone])).1
  · rename_i hsome _
    refine ⟨rfl, Or.inr ?_⟩
    apply (Query.searchable_boolean _).mpr
    refine ⟨by simpa using hsome, ?_⟩
    intro clause hmember
    obtain ⟨o, ho, rfl⟩ := List.mem_map.mp hmember
    obtain ⟨hclean, hsearchable⟩ := hkept o ho
    simpa [alternative, toQuery, hclean.not_negated] using hsearchable

end Outcome

/-- The handler of some field, with some way to resolve operands and some present. -/
def Handler.IsOfField (h : Handler) : Prop :=
  ∃ (field : Field) (resolver : Resolver) (now : Option Int), h = field.handler resolver now

theorem Handler.IsOfField.outcome_clean {h : Handler} (hfield : h.IsOfField) (caller : Caller)
    (c : Condition) : (h.outcome caller c).Clean := by
  obtain ⟨field, resolver, now, rfl⟩ := hfield
  exact (Searcher.outcome_builtFor _ caller c).clean

theorem Catalog.mem_entries_of_mem_handlersOf {catalog : Catalog} {caller : Caller} {name : String}
    {h : Handler} (hmember : h ∈ catalog.handlersOf caller name) :
    (Text.lower name, h) ∈ catalog.entries := by
  apply mem_entries_of_mem_handlers
  unfold handlersOf at hmember
  split at hmember
  · exact hmember
  · exact (List.mem_filter.mp hmember).1

/-- A field, which need not even pass its checks, answers any condition by nothing or by a query
without an empty boolean, and leaves no negation to be placed. So does a catalog with the handlers
of any number of fields, also where several of them answer under one name. -/
theorem conditions_answered_cleanly (caller : Caller) (c : Condition) :
    (∀ (field : Field) (resolver : Resolver) (now : Option Int),
      ((field.handler resolver now).outcome caller c).Clean) ∧
      ∀ (catalog : Catalog) (history : History) (limit : Nat),
        (∀ entry ∈ catalog.entries, entry.2.IsOfField) →
        ∃ o, (Environment.of catalog history).visit limit caller (.condition c) = .ok o ∧
          o.Clean := by
  constructor
  · intro field resolver now
    exact Handler.IsOfField.outcome_clean ⟨field, resolver, now, rfl⟩ caller c
  · intro catalog history limit hfields
    refine ⟨_, rfl, ?_⟩
    apply Outcome.merge_clean
    intro o ho
    obtain ⟨h, hhandler, rfl⟩ := List.mem_map.mp ho
    exact (hfields _ (Catalog.mem_entries_of_mem_handlersOf hhandler)).outcome_clean caller c

/-- Two fields under one name, one of them guarded, and an expression
whose first group has no words. -/
theorem conditions_answered_cleanly_under_one_name :
    let summary : Field :=
      { names := ["text"], indexField := "summary", kind := .text, guarded := true }
    let notes : Field := { names := ["text"], indexField := "notes", kind := .text }
    let handler (field : Field) := field.handler Functions.builtin.resolver none
    let catalog := Catalog.registerAll [("text", handler summary), (" Text", handler notes)]
    let history : History := ⟨fun _ => [], Functions.builtin.resolver, []⟩
    let c : Condition := ⟨"TEXT", .notLike, .text "(the) -cool"⟩
    (∀ entry ∈ catalog.entries, entry.2.IsOfField) ∧
      ∃ o, (Environment.of catalog history).visit 3 ⟨none, false⟩ (.condition c) = .ok o ∧
        o.isNothing = false ∧ o.Clean := by
  intro summary notes handler catalog history c
  have hfields : ∀ entry ∈ catalog.entries, entry.2.IsOfField := by
    intro entry hentry
    obtain ⟨r, hr, rfl⟩ := Catalog.mem_registerAll_entries hentry
    rcases List.mem_cons.mp hr with rfl | hr
    · exact ⟨summary, _, _, rfl⟩
    · obtain rfl := List.mem_singleton.mp hr
      exact ⟨notes, _, _, rfl⟩
  obtain ⟨o, hvisit, hclean⟩ :=
    (conditions_answered_cleanly ⟨none, false⟩ c).2 catalog history 3 hfields
  have hsome : ((Environment.of catalog history).condition ⟨none, false⟩ c).isNothing = false := by
    decide +kernel
  refine ⟨hfields, o, hvisit, ?_, hclean⟩
  rw [← Except.ok.inj hvisit]
  exact hsome

end FilterCompiler
