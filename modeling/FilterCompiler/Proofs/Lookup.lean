import Mathlib
import FilterCompiler.Proofs.Naming
import FilterCompiler.Proofs.Registration

/-!
Lookup in a catalog, whatever was registered before. A catalog remembers registrations under the
trimmed lower-case form of their names and is asked for the lower-case form of a name as it stands;
so a lookup finds, in the order in which they were made, the registrations whose names have that
form. What was registered under other names makes no difference, nor does its place in between.
-/

namespace FilterCompiler

namespace Text

theorem trimChars_eq_nil_iff (cs : List Char) : trimChars cs = [] ↔ cs.all isBlank = true := by
  have hstart : trimStart cs = [] ↔ cs.all isBlank = true := by
    rw [trimStart, List.dropWhile_eq_nil_iff, List.all_eq_true]
  rw [← hstart, trimChars]
  cases hcs : trimStart cs with
  | nil => exact iff_of_true rfl rfl
  | cons c rest =>
      -- What is left after trimming the start begins with a character that is no white space.
      have hc : isBlank c = false := by
        have hhead := head?_trimStart cs
        rwa [hcs] at hhead
      rw [trimEnd_cons hc]
      exact iff_of_false (List.cons_ne_nil _ _) (List.cons_ne_nil _ _)

theorem lower_trim_eq_empty_iff (s : String) : lower (trim s) = "" ↔ isBlankText s = true := by
  rw [lower_eq_empty_iff, isBlankText, ← trimChars_eq_nil_iff, trim, ← String.toList_inj,
    String.toList_ofList]
  rfl

end Text

/-- The number of different entries in a list is the number of elements
of the set of its entries. -/
theorem eraseDups_length_eq_card {α : Type} [DecidableEq α] (l : List α) :
    l.eraseDups.length = l.toFinset.card := by
  induction hlength : l.length using Nat.strong_induction_on generalizing l with
  | _ n ih =>
      cases l with
      | nil => rfl
      | cons a l =>
          have hshorter : (l.filter (! · == a)).length < n := by
            rw [← hlength]
            exact Nat.lt_succ_of_le (List.length_filter_le _ l)
          have hset : (a :: l).toFinset = insert a (l.filter (! · == a)).toFinset := by
            ext b
            by_cases hb : b = a <;> simp [hb]
          rw [List.eraseDups_cons, List.length_cons, ih _ hshorter _ rfl, hset,
            Finset.card_insert_of_notMem (by simp)]

namespace Catalog

/-- The form of a name under which handlers are kept. -/
def key (name : String) : String := Text.lower (Text.trim name)

/-- A registration that is found under a name. -/
def isUnder (name : String) (r : String × Handler) : Bool :=
  !Text.isBlankText r.1 && key r.1 == Text.lower name

/-- The catalog after further registrations. -/
def extend (c : Catalog) (later : List (String × Handler)) : Catalog :=
  later.foldl (fun c r => c.register r.1 r.2) c

theorem extend_nil (c : Catalog) : c.extend [] = c := rfl

theorem extend_cons (c : Catalog) (r : String × Handler) (later : List (String × Handler)) :
    c.extend (r :: later) = (c.register r.1 r.2).extend later := by
  rw [extend, List.foldl_cons, extend]

theorem extend_registerAll (before later : List (String × Handler)) :
    (registerAll before).extend later = registerAll (before ++ later) :=
  (List.foldl_append ..).symm

theorem added?_eq (r : String × Handler) :
    added? r = if Text.isBlankText r.1 then none else some (key r.1, r.2) := by
  unfold added?
  dsimp only
  have hblank : (Text.lower (Text.trim r.1)).isEmpty = Text.isBlankText r.1 := by
    rw [Bool.eq_iff_iff, String.isEmpty_iff, Text.lower_trim_eq_empty_iff]
  rw [hblank]
  rfl

variable (history : List (String × Handler))

/-- What a catalog keeps of its registrations. -/
theorem registerAll_entries_eq :
    (registerAll history).entries =
      (history.filter fun r => !Text.isBlankText r.1).map fun r => (key r.1, r.2) := by
  rw [registerAll_entries]
  induction history with
  | nil => rfl
  | cons r rest ih =>
      rw [List.filterMap_cons, added?_eq, List.filter_cons, ih]
      cases Text.isBlankText r.1 <;> simp

/-- A lookup finds the registrations under the name, in their order. -/
theorem registerAll_handlers (name : String) :
    (registerAll history).handlers name = (history.filter (isUnder name)).map (·.2) := by
  have hunder (r : String × Handler) :
      (key r.1 == Text.lower name && !Text.isBlankText r.1) = isUnder name r := Bool.and_comm _ _
  rw [handlers, registerAll_entries_eq, List.filter_map, List.map_map, List.filter_filter]
  simp only [Function.comp_def, hunder]

theorem registerAll_handlersFor (user : Option String) (name : String) :
    (registerAll history).handlersFor user name =
      (history.filter fun r => isUnder name r && r.2.permits user).map (·.2) := by
  rw [handlersFor, registerAll_handlers, List.filter_map, List.filter_filter]
  simp only [Function.comp_def, Bool.and_comm]

theorem registerAll_answers (caller : Caller) (condition : Condition) :
    (registerAll history).answers caller condition =
      (history.filter fun r => isUnder condition.field r &&
        (caller.unrestricted || r.2.permits caller.user)).map
          fun r => r.2.outcome caller condition := by
  rw [answers, handlersOf]
  cases caller.unrestricted with
  | true =>
      rw [if_pos rfl, registerAll_handlers, List.map_map]
      simp only [Bool.true_or, Bool.and_true]
      rfl
  | false =>
      rw [if_neg Bool.false_ne_true, registerAll_handlersFor, List.map_map]
      rfl

theorem registerAll_size :
    (registerAll history).size =
      ((history.filter fun r => !Text.isBlankText r.1).map fun r => key r.1).toFinset.card := by
  rw [size, eraseDups_length_eq_card, registerAll_entries_eq, List.map_map]
  rfl

/-- Two registrations of which a lookup finds at most one can change places. -/
theorem filter_swap {p : String × Handler → Bool} {a b : String × Handler}
    (h : p a = false ∨ p b = false) (before after : List (String × Handler)) :
    (before ++ a :: b :: after).filter p = (before ++ b :: a :: after).filter p := by
  rw [List.filter_append, List.filter_append]
  rcases h with ha | hb
  · simp only [List.filter_cons, ha, Bool.false_eq_true, if_false]
  · simp only [List.filter_cons, hb, Bool.false_eq_true, if_false]

variable {a b : String × Handler}

theorem not_isUnder_both (hkeys : key a.1 ≠ key b.1) (name : String) :
    isUnder name a = false ∨ isUnder name b = false := by
  by_contra hboth
  simp only [isUnder, not_or, Bool.not_eq_false, Bool.and_eq_true, beq_iff_eq] at hboth
  obtain ⟨⟨-, ha⟩, -, hb⟩ := hboth
  exact hkeys (ha.trans hb.symm)

theorem registerAll_swap_handlers (hkeys : key a.1 ≠ key b.1)
    (before after : List (String × Handler)) :
    (registerAll (before ++ a :: b :: after)).handlers =
      (registerAll (before ++ b :: a :: after)).handlers := by
  funext name
  rw [registerAll_handlers, registerAll_handlers, filter_swap (not_isUnder_both hkeys name)]

/-- The size does not depend on the order of registrations at all. -/
theorem registerAll_size_of_perm {history history' : List (String × Handler)}
    (h : history.Perm history') : (registerAll history).size = (registerAll history').size := by
  rw [registerAll_size, registerAll_size]
  exact congrArg Finset.card (List.toFinset_eq_of_perm _ _ ((h.filter _).map _))

/-- Let a catalog be made from fields that pass their checks, and any registrations follow. A lookup
finds exactly the registrations under names that are not blank and have the trimmed lower-case form
asked for, each as often as it was made and in the order in which they were made. Users get those
that permit them, and an unrestricted caller all of them. The size counts the different forms. Two
registrations under different forms can change places, whatever comes before and after them. -/
theorem lookups_follow_registrations (fields : List Field) (resolver : Resolver) (now : Option Int)
    (catalog : Catalog) (haccepted : Catalog.ofFields fields resolver now = .ok catalog)
    (later : List (String × Handler)) :
    let history := Field.registrations fields resolver now ++ later
    let c := catalog.extend later
    (∀ name, c.handlers name = (history.filter (isUnder name)).map (·.2)) ∧
      (∀ user name, c.handlersFor user name =
        (history.filter fun r => isUnder name r && r.2.permits user).map (·.2)) ∧
      (∀ caller condition, c.answers caller condition =
        (history.filter fun r => isUnder condition.field r &&
          (caller.unrestricted || r.2.permits caller.user)).map
            fun r => r.2.outcome caller condition) ∧
      c.size =
        ((history.filter fun r => !Text.isBlankText r.1).map fun r => key r.1).toFinset.card ∧
      ∀ (a b : String × Handler) (after : List (String × Handler)), key a.1 ≠ key b.1 →
        let c₁ := ((c.register a.1 a.2).register b.1 b.2).extend after
        let c₂ := ((c.register b.1 b.2).register a.1 a.2).extend after
        c₁.handlers = c₂.handlers ∧ c₁.handlersFor = c₂.handlersFor ∧ c₁.answers = c₂.answers ∧
          c₁.size = c₂.size := by
  intro history c
  have hc : c = registerAll history := by
    rw [← extend_registerAll, ← eq_registerAll_of_ofFields haccepted]
  rw [hc]
  refine ⟨registerAll_handlers history, registerAll_handlersFor history,
    registerAll_answers history, registerAll_size history, ?_⟩
  intro a b after hkeys c₁ c₂
  have hc₁ : c₁ = registerAll (history ++ a :: b :: after) := by
    rw [← extend_registerAll, extend_cons, extend_cons]
  have hc₂ : c₂ = registerAll (history ++ b :: a :: after) := by
    rw [← extend_registerAll, extend_cons, extend_cons]
  have hhandlers : c₁.handlers = c₂.handlers := by
    rw [hc₁, hc₂]
    exact registerAll_swap_handlers hkeys history after
  have hfor : c₁.handlersFor = c₂.handlersFor := by
    funext user name
    rw [handlersFor, handlersFor, hhandlers]
  refine ⟨hhandlers, hfor, ?_, ?_⟩
  · funext caller condition
    rw [answers, answers, handlersOf, handlersOf, hhandlers, hfor]
  · rw [hc₁, hc₂]
    exact registerAll_size_of_perm ((List.Perm.swap b a after).append_left history)

/-- One of the fields has two names, and the other is for a single user. A second handler is added
under a name of the first field, and one under a blank name. -/
theorem lookups_follow_registrations_of_ballot :
    let votes : Field := { names := ["votes", "Score "], indexField := "votes", kind := .number }
    let secret : Field :=
      { names := ["secret"], indexField := "secret", kind := .exact, permission := .users ["fred"] }
    let handler (f : Field) := f.handler Functions.builtin.resolver none
    let ballot := registerAll (Field.registrations [votes, secret] Functions.builtin.resolver none)
    let c := ballot.extend [(" VOTES", handler secret), ("  ", handler votes)]
    ofFields [votes, secret] Functions.builtin.resolver none = .ok ballot ∧
      c.handlers "Votes" = [handler votes, handler secret] ∧ c.handlers " votes" = [] ∧
      c.handlersFor (some "bob") "votes" = [handler votes] ∧ c.size = 3 ∧
      key "new" ≠ key "score" ∧
      ((c.register "new" (handler secret)).register "score" (handler secret)).handlers =
        ((c.register "score" (handler secret)).register "new" (handler secret)).handlers := by
  intro votes secret handler ballot c
  have haccepted : ofFields [votes, secret] Functions.builtin.resolver none = .ok ballot :=
    ofFields_of_validateAll (by decide +kernel)
  have hkeys : key "new" ≠ key "score" := by decide +kernel
  obtain ⟨hhandlers, hfor, -, hsize, hswap⟩ := lookups_follow_registrations [votes, secret]
    Functions.builtin.resolver none ballot haccepted
    [(" VOTES", handler secret), ("  ", handler votes)]
  have hlater := (hswap ("new", handler secret) ("score", handler secret) [] hkeys).1
  simp only [extend_nil] at hlater
  refine ⟨haccepted, (hhandlers "Votes").trans ?_, (hhandlers " votes").trans ?_,
    (hfor (some "bob") "votes").trans ?_, hsize.trans (by decide +kernel), hkeys, hlater⟩
  all_goals
    unfold handler votes secret
    rfl

end Catalog

end FilterCompiler
