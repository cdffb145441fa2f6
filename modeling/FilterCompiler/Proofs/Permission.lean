import FilterCompiler.Proofs.Registration
import FilterCompiler.Proofs.Trees

/-!
Permissions decide which handlers there are, before anything is combined. For a user, a catalog
behaves as if it had never held the handlers that do not permit that user; with the restriction
lifted, it behaves as if all of them permitted everyone.
-/

namespace FilterCompiler

open Compilation

namespace Catalog

/-- The catalog without the handlers that do not permit a user. -/
def restrictedTo (c : Catalog) (user : Option String) : Catalog :=
  ⟨c.entries.filter fun entry => entry.2.permits user⟩

/-- The catalog with handlers that permit everyone. -/
def opened (c : Catalog) : Catalog :=
  ⟨c.entries.map fun entry => (entry.1, { entry.2 with permits := Permission.everyone.permits })⟩

/-- Forbidden handlers leave no trace among those of a name. -/
theorem restrictedTo_handlersFor (c : Catalog) (user : Option String) (name : String) :
    (c.restrictedTo user).handlersFor user name = c.handlersFor user name := by
  unfold handlersFor handlers restrictedTo
  rw [List.filter_map, List.filter_map, List.filter_filter, List.filter_filter, List.filter_filter]
  congr 1
  apply List.filter_congr
  intro entry _
  simp only [Function.comp_apply]
  cases entry.2.permits user <;> simp

theorem restrictedTo_answers (c : Catalog) (user : Option String) :
    (c.restrictedTo user).answers ⟨user, false⟩ = c.answers ⟨user, false⟩ := by
  funext condition
  simp only [answers, handlersOf, Bool.false_eq_true, if_false, restrictedTo_handlersFor]

theorem opened_handlers (c : Catalog) (name : String) :
    c.opened.handlers name =
      (c.handlers name).map fun h => { h with permits := Permission.everyone.permits } := by
  simp [handlers, opened, List.filter_map, Function.comp_def]

/-- Once opened, a catalog asks all handlers of a field, whoever the caller is. -/
theorem opened_answers (c : Catalog) (caller : Caller) (condition : Condition) :
    c.opened.answers caller condition =
      (c.handlers condition.field).map fun h => h.outcome caller condition := by
  have hopen : c.opened.handlersOf caller condition.field = c.opened.handlers condition.field := by
    unfold handlersOf
    split
    · rfl
    · apply List.filter_eq_self.mpr
      intro h hmember
      rw [opened_handlers] at hmember
      obtain ⟨g, _, rfl⟩ := List.mem_map.mp hmember
      rfl
  rw [answers, hopen, opened_handlers, List.map_map]
  rfl

end Catalog

namespace Environment

/-- Outcomes depend on an environment only through its answers to the caller who asks. The two
callers need not be the same, as long as they get the same answers. -/
theorem outcome_congr {e₁ e₂ : Environment} {caller₁ caller₂ : Caller}
    (hanswers : e₁.answers caller₁ = e₂.answers caller₂) (hpast : e₁.past caller₁ = e₂.past caller₂)
    (hchange : e₁.change caller₁ = e₂.change caller₂) (f : Filter) :
    e₁.outcome caller₁ f = e₂.outcome caller₂ f := by
  induction f with
  | condition c => simp only [outcome, condition, hanswers]
  | not inner ih => simp only [outcome, ih]
  | all members ih | any members ih =>
      simp only [outcome, outcomes_eq_map]
      rw [List.map_congr_left ih]
  | past p => simp only [outcome, hpast]
  | change c => simp only [outcome, hchange]

theorem compileWith_congr {e₁ e₂ : Environment} {caller₁ caller₂ : Caller}
    (hanswers : e₁.answers caller₁ = e₂.answers caller₂) (hpast : e₁.past caller₁ = e₂.past caller₂)
    (hchange : e₁.change caller₁ = e₂.change caller₂) (limit : Nat)
    (finish : Query → Except Fault Query) (f : Filter) :
    e₁.compileWith limit finish caller₁ f = e₂.compileWith limit finish caller₂ f := by
  simp only [compileWith, draft, visit, outcome_congr hanswers hpast hchange]

end Environment

/-- Answers that may depend on who the caller is, but not on whether the restriction is lifted. -/
def IgnoresRestriction {α β : Type} (answer : Caller → α → β) : Prop :=
  ∀ user, answer ⟨user, true⟩ = answer ⟨user, false⟩

/-- Take any registrations, any answers about the past, any limit and any last step. For a
user, compilation gives the same query or the same fault as without the handlers that do not
permit them. With the restriction lifted it gives the same as if all handlers permitted
everyone; and that is what the user themselves would get from such handlers, if no answer
depends on the lifting itself. -/
theorem compile_ignores_forbidden_handlers (registrations : List (String × Handler))
    (past : Caller → PastValue → Outcome) (change : Caller → Change → Outcome) (limit : Nat)
    (finish : Query → Except Fault Query) (user : Option String) (f : Filter) :
    let catalog := Catalog.registerAll registrations
    let compile (c : Catalog) (caller : Caller) :=
      (Environment.mk c.answers past change).compileWith limit finish caller f
    compile catalog ⟨user, false⟩ = compile (catalog.restrictedTo user) ⟨user, false⟩ ∧
    compile catalog ⟨user, true⟩ = compile catalog.opened ⟨user, true⟩ ∧
    ((∀ r ∈ registrations, IgnoresRestriction r.2.outcome) → IgnoresRestriction past →
      IgnoresRestriction change →
      compile catalog ⟨user, true⟩ = compile catalog.opened ⟨user, false⟩) := by
  intro catalog compile
  refine ⟨?_, ?_, ?_⟩
  · refine Environment.compileWith_congr ?_ ?_ ?_ limit finish f
    · exact (catalog.restrictedTo_answers user).symm
    · rfl
    · rfl
  · refine Environment.compileWith_congr ?_ ?_ ?_ limit finish f
    · funext condition
      exact (catalog.opened_answers ⟨user, true⟩ condition).symm
    · rfl
    · rfl
  · intro hhandlers hpast hchange
    refine Environment.compileWith_congr ?_ (hpast user) (hchange user) limit finish f
    funext condition
    refine Eq.trans ?_ (catalog.opened_answers ⟨user, false⟩ condition).symm
    apply List.map_congr_left
    intro h hmember
    obtain ⟨r, hr, hentry⟩ :=
      Catalog.mem_registerAll_entries (Catalog.mem_entries_of_mem_handlers hmember)
    obtain rfl : h = r.2 := congrArg Prod.snd hentry
    rw [hhandlers r hr user]

/-- Of two handlers of one field, the second is not for anonymous callers. An anonymous caller sees
a single answer where there are two without the restriction. -/
theorem compile_ignores_forbidden_handlers_of_secret :
    let registrations : List (String × Handler) := [
      ("Key", ⟨fun _ _ => ⟨.ofTerm "open" "a", false⟩, Permission.everyone.permits⟩),
      ("key ", ⟨fun _ _ => ⟨.ofTerm "secret" "a", false⟩, Permission.authenticated.permits⟩)]
    let catalog := Catalog.registerAll registrations
    let compile (c : Catalog) (caller : Caller) :=
      (Environment.mk c.answers (fun _ _ => .nothing) (fun _ _ => .nothing)).compileWith 2 .ok
        caller (.condition ⟨"KEY", .equals, .empty⟩)
    compile catalog ⟨none, false⟩ = .ok (.ofTerm "open" "a") ∧
    compile catalog ⟨none, true⟩ =
      .ok (.boolean [(.should, .ofTerm "open" "a"), (.should, .ofTerm "secret" "a")]) ∧
    compile catalog ⟨none, false⟩ = compile (catalog.restrictedTo none) ⟨none, false⟩ ∧
    compile catalog ⟨none, true⟩ = compile catalog.opened ⟨none, false⟩ := by
  intro registrations catalog compile
  have hnothing : ∀ α : Type, IgnoresRestriction fun (_ : Caller) (_ : α) => Outcome.nothing :=
    fun _ _ => rfl
  have hhandlers : ∀ r ∈ registrations, IgnoresRestriction r.2.outcome := by
    simp [registrations, IgnoresRestriction]
  obtain ⟨hrestricted, _, hlifted⟩ := compile_ignores_forbidden_handlers registrations
    (fun _ _ => .nothing) (fun _ _ => .nothing) 2 .ok none (.condition ⟨"KEY", .equals, .empty⟩)
  exact ⟨rfl, rfl, hrestricted, hlifted hhandlers (hnothing PastValue) (hnothing Change)⟩

end FilterCompiler
