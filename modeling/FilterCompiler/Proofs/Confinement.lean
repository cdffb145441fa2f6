import FilterCompiler.Proofs.Construction
import FilterCompiler.Proofs.Registration

/-!
Which fields a query can ask about. Whatever a filter writes in its operands, a condition is
turned into questions about the index field of a handler and no other: rules pass the field on,
and free text is words of the field. So the fields of a compiled query are those that its
conditions name and the user may see.
-/

namespace FilterCompiler

namespace Query

/-- A leaf that asks about the words of a field, or whether a document shows
the field or holds a value in it. -/
def Concerns (field : String) (leaf : Query) : Prop :=
  leaf.field? = some field ∨ leaf = .term ⟨"visiblefieldids", field⟩ ∨
    leaf = .term ⟨"nonemptyfieldids", field⟩

/-- A query that asks about a single field, its visibility and its values. -/
def ConfinedTo (field : String) (q : Query) : Prop := q.EveryLeaf (Concerns field)

/-- A query that is built for a field asks about nothing else. -/
theorem BuiltFor.confined {field : String} {q : Query} (h : q.BuiltFor field) :
    q.ConfinedTo field := by
  induction h with
  | asking hfield => exact everyLeaf_of_field? hfield (Or.inl hfield)
  | visible => exact everyLeaf_of_field? rfl (Or.inr (Or.inl rfl))
  | present => exact everyLeaf_of_field? rfl (Or.inr (Or.inr rfl))
  | boosted _ ih => exact ih
  | boolean _ _ ih => exact (everyLeaf_boolean _).mpr ih

end Query

/-- A searcher asks about its own field of the index, whatever condition it is given. -/
theorem Searcher.outcome_confined (s : Searcher) (caller : Caller) (c : Condition) :
    (s.outcome caller c).query.ConfinedTo s.indexField := by
  have hbuilt := s.outcome_builtFor caller c
  generalize s.outcome caller c = o at hbuilt
  cases hbuilt with
  | nothing => exact Query.everyLeaf_nothing
  | query h => exact h.confined

namespace History

theorem documents_leaves {h : History} {search : Search} {leaf : Query}
    (hleaf : leaf ∈ (h.documents search).query.leaves) :
    ∃ id : Nat, leaf = .term ⟨"docid", toString id⟩ := by
  unfold documents at hleaf
  split at hleaf
  · cases hleaf
  · obtain ⟨clause, hclause, hleaf⟩ := (Query.mem_leavesOfAll_iff _ leaf).mp hleaf
    obtain ⟨id, _, rfl⟩ := List.mem_map.mp hclause
    exact ⟨id, List.mem_singleton.mp hleaf⟩

theorem past_leaves {h : History} {caller : Caller} {p : PastValue} {leaf : Query}
    (hleaf : leaf ∈ (h.past caller p).query.leaves) :
    ∃ id : Nat, leaf = .term ⟨"docid", toString id⟩ := by
  unfold past at hleaf
  split at hleaf
  · cases hleaf
  · split at hleaf
    · rw [Outcome.complement_query] at hleaf
      exact documents_leaves hleaf
    · exact documents_leaves hleaf

end History

/-- Some name of the field, in lower case, is that of a condition in the filter. -/
def Field.IsNamedIn (field : Field) (f : Filter) : Prop :=
  ∃ name ∈ field.names, ∃ c, .condition c ∈ f.leaves ∧
    Text.lower (Text.trim name) = Text.lower c.field

/-- An answer to a restricted caller comes from a handler that permits the caller and was registered
under the name of the condition. -/
theorem Catalog.mem_answers {catalog : Catalog} {user : Option String} {c : Condition} {o : Outcome}
    (h : o ∈ catalog.answers ⟨user, false⟩ c) :
    ∃ handler, (Text.lower c.field, handler) ∈ catalog.entries ∧ handler.permits user = true ∧
      o = handler.outcome ⟨user, false⟩ c := by
  obtain ⟨handler, hhandler, rfl⟩ := List.mem_map.mp h
  obtain ⟨hmember, hpermits⟩ := List.mem_filter.mp hhandler
  exact ⟨handler, mem_entries_of_mem_handlers hmember, hpermits, rfl⟩

/-- In a catalog of fields, the questions of an answer concern a field that permits the caller and
has the name of the condition. -/
theorem Catalog.mem_leaves_of_ofFields {fields : List Field} {resolver : Resolver}
    {now : Option Int} {catalog : Catalog}
    (hcatalog : Catalog.ofFields fields resolver now = .ok catalog)
    {user : Option String} {c : Condition} {o : Outcome} (ho : o ∈ catalog.answers ⟨user, false⟩ c)
    {leaf : Query} (hleaf : leaf ∈ o.query.leaves) :
    ∃ field ∈ fields, field.permission.permits user = true ∧
      (∃ name ∈ field.names, Text.lower (Text.trim name) = Text.lower c.field) ∧
      leaf.Concerns field.indexField := by
  obtain ⟨handler, hentry, hpermits, rfl⟩ := Catalog.mem_answers ho
  rw [Catalog.eq_registerAll_of_ofFields hcatalog] at hentry
  obtain ⟨r, hr, hregistered⟩ := Catalog.mem_registerAll_entries hentry
  obtain ⟨field, hfield, hnames⟩ := List.mem_flatMap.mp hr
  obtain ⟨name, hname, rfl⟩ := List.mem_map.mp hnames
  obtain ⟨hkey, rfl⟩ := Prod.mk.inj hregistered
  exact ⟨field, hfield, hpermits, ⟨name, hname, hkey.symm⟩,
    Searcher.outcome_confined _ _ c leaf hleaf⟩

/-- Let the catalog be made from any fields that pass their checks, with any way to resolve
operands, and let the caller be restricted to what the user may see. A compiled query then asks for
everything, for documents that the history has found (which takes a question about the past), or
about the index field of a field that permits the user and that the filter itself names: about its
words, or whether it is shown or holds a value. -/
theorem compile_confined_to_named_fields (fields : List Field) (resolver : Resolver)
    (now : Option Int) (catalog : Catalog) (history : History) (s : Settings) (user : Option String)
    (f : Filter) (q : Query) (hcatalog : Catalog.ofFields fields resolver now = .ok catalog)
    (hq : (Environment.of catalog history).compile s ⟨user, false⟩ f = .ok q) :
    ∀ leaf ∈ q.leaves, leaf = .everything ∨
      (f.AsksHistory ∧ ∃ id : Nat, leaf = .term ⟨"docid", toString id⟩) ∨
      ∃ field ∈ fields, field.permission.permits user = true ∧ field.IsNamedIn f ∧
        leaf.Concerns field.indexField := by
  intro leaf hleaf
  rcases Environment.mem_leaves_of_compile hq hleaf with heverything | ⟨g, hg, hanswer⟩
  · exact Or.inl heverything
  refine Or.inr ?_
  cases g with
  | condition c =>
      obtain ⟨o, ho, hsource⟩ := Outcome.mem_leaves_of_merge hanswer
      obtain ⟨field, hfield, hpermits, ⟨name, hname, hkey⟩, hconcerns⟩ :=
        Catalog.mem_leaves_of_ofFields hcatalog ho hsource
      exact Or.inr ⟨field, hfield, hpermits, ⟨name, hname, c, hg, hkey⟩, hconcerns⟩
  | past p => exact Or.inl ⟨Or.inl ⟨p, hg⟩, History.past_leaves hanswer⟩
  | change c => exact Or.inl ⟨Or.inr ⟨c, hg⟩, History.documents_leaves hanswer⟩
  | all members | any members | not inner => cases Filter.isLeaf_of_mem_leaves hg

/-- One field is for everyone, and one for a single user. The operand of one condition tries to
reach the field `pay`, and so does the field of another. -/
theorem compile_confined_to_named_fields_of_payroll :
    let fields : List Field := [
      { names := [" Key"], indexField := "key", kind := .exact, guarded := true },
      { names := ["pay"], indexField := "pay", kind := .number, permission := .users ["ann"] }]
    let catalog := Catalog.registerAll
      (Field.registrations fields Functions.builtin.resolver none)
    let history : History := ⟨fun _ => [7], Functions.builtin.resolver, []⟩
    let probe : Filter := .not (.any [
      .condition ⟨"KEY", .notEquals, .text "a) OR pay:(1"⟩,
      .condition ⟨"pay", .greater, .number 1⟩,
      .change ⟨"key", []⟩])
    let q : Query := .boolean [
      (.mustNot, .boolean [
        (.must, .boolean [
          (.must, .ofTerm "nonemptyfieldids" "key"),
          (.mustNot, .ofTerm "key" "a) OR pay:(1"),
          (.must, .ofTerm "visiblefieldids" "key")]),
        (.must, .ofTerm "visiblefieldids" "key")]),
      (.must, .nothing),
      (.mustNot, .boolean [(.should, .ofTerm "docid" "7")])]
    Catalog.ofFields fields Functions.builtin.resolver none = .ok catalog ∧
      (Environment.of catalog history).compile ⟨3, true⟩ ⟨some "bob", false⟩ probe = .ok q ∧
      ∀ leaf ∈ q.leaves, leaf = .everything ∨
        (probe.AsksHistory ∧ ∃ id : Nat, leaf = .term ⟨"docid", toString id⟩) ∨
        ∃ field ∈ fields, field.permission.permits (some "bob") = true ∧
          field.IsNamedIn probe ∧ leaf.Concerns field.indexField := by
  intro fields catalog history probe q
  have haccepted : Catalog.ofFields fields Functions.builtin.resolver none = .ok catalog :=
    Catalog.ofFields_of_validateAll rfl
  have hcompiled : (Environment.of catalog history).compile ⟨3, true⟩ ⟨some "bob", false⟩ probe =
      .ok q := by
    unfold q probe history catalog fields
    rfl
  exact ⟨haccepted, hcompiled, compile_confined_to_named_fields fields _ none catalog history
    ⟨3, true⟩ (some "bob") probe q haccepted hcompiled⟩

end FilterCompiler
