import FilterCompiler.Proofs.Limit

/-!
Normal forms of filters. Three functions draw the line between normal and other filters, each in its
own recursion: the one that makes normal forms, the one that recognises them, and the check that
comes before a filter is answered. Here they are shown to draw the same line, and making a normal
form is shown to keep what the filter says and the leaves it says it with.

Truth is classical in this module: a group without members is true or false like any other, and a
negation is true where its filter is false. What a filter finds among documents is another matter.
-/

namespace FilterCompiler

open Compilation

namespace Filter

mutual

/-- The truth value of a filter, given one for every leaf. -/
def eval (truth : Filter → Bool) : Filter → Bool
  | .all members => (evalEach truth members).all id
  | .any members => (evalEach truth members).any id
  | .not inner => !inner.eval truth
  | .condition c => truth (.condition c)
  | .past p => truth (.past p)
  | .change c => truth (.change c)

def evalEach (truth : Filter → Bool) : List Filter → List Bool
  | [] => []
  | f :: fs => f.eval truth :: evalEach truth fs

end

mutual

/-- The leaves of a filter, from the left, each with the number of negations that it stands under;
`outer` of these are around the filter itself. -/
def countedLeaves (outer : Nat) : Filter → List (Nat × Filter)
  | .all members | .any members => countedLeavesOfAll outer members
  | .not inner => inner.countedLeaves (outer + 1)
  | .condition c => [(outer, .condition c)]
  | .past p => [(outer, .past p)]
  | .change c => [(outer, .change c)]

def countedLeavesOfAll (outer : Nat) : List Filter → List (Nat × Filter)
  | [] => []
  | f :: fs => f.countedLeaves outer ++ countedLeavesOfAll outer fs

end

mutual

/-- What the groups of a filter are made of, from the left: leaves, and
negations of whatever it may be. -/
def literals : Filter → List Filter
  | .all members | .any members => literalsOfAll members
  | .not inner => [.not inner]
  | .condition c => [.condition c]
  | .past p => [.past p]
  | .change c => [.change c]

def literalsOfAll : List Filter → List Filter
  | [] => []
  | f :: fs => f.literals ++ literalsOfAll fs

end

/-- A leaf under one negation if it stood under an odd number of them, and under none otherwise. -/
def signed (negations : Nat) (leaf : Filter) : Filter :=
  if negations % 2 = 1 then .not leaf else leaf

theorem evalEach_eq_map (truth : Filter → Bool) (fs : List Filter) :
    evalEach truth fs = fs.map (eval truth) := by
  induction fs with
  | nil => rfl
  | cons f fs ih => simp [evalEach, ih]

theorem countedLeavesOfAll_eq_flatMap (outer : Nat) (fs : List Filter) :
    countedLeavesOfAll outer fs = fs.flatMap (countedLeaves outer) := by
  induction fs with
  | nil => rfl
  | cons f fs ih => simp [countedLeavesOfAll, ih]

theorem literalsOfAll_eq_flatMap (fs : List Filter) :
    literalsOfAll fs = fs.flatMap literals := by
  induction fs with
  | nil => rfl
  | cons f fs ih => simp [literalsOfAll, ih]

/-- The normal form of a filter under negations has the truth value of the filter, complemented if
the number of negations is odd. Groups without members are no exception. -/
theorem normalizeUnder_eval (truth : Filter → Bool) (negated : Bool) (f : Filter) :
    (f.normalizeUnder negated).eval truth = (f.eval truth ^^ negated) := by
  induction f generalizing negated with
  | not inner ih =>
      rw [normalizeUnder, ih, eval]
      cases negated <;> simp
  | all members ih | any members ih =>
      have hmembers : (members.map (normalizeUnder negated)).map (eval truth) =
          members.map fun f => f.eval truth ^^ negated := by
        rw [List.map_map]
        apply List.map_congr_left
        intro f hmember
        exact ih f hmember negated
      -- Under a negation the group changes its kind, and De Morgan's laws hold for no members too.
      cases negated <;>
        simp [normalizeUnder, eval, evalEach_eq_map, hmembers, List.all_eq_not_any_not,
          List.any_map, Function.comp_def]
  | condition c | past p | change c => cases negated <;> simp [normalizeUnder, eval]

/-- The literals of a normal form are the leaves of the filter, each with the sign that the
negations above it leave. The polarity of the normal form is the parity of the count. -/
theorem normalizeUnder_literals (outer : Nat) (f : Filter) :
    (f.normalizeUnder (outer % 2 == 1)).literals =
      (f.countedLeaves outer).map fun counted => signed counted.1 counted.2 := by
  induction f generalizing outer with
  | not inner ih =>
      have hparity : (!(outer % 2 == 1)) = ((outer + 1) % 2 == 1) := by
        rcases Nat.mod_two_eq_zero_or_one outer with heven | hodd
        · simp [heven, Nat.add_mod]
        · simp [hodd, Nat.add_mod]
      rw [normalizeUnder, countedLeaves, hparity]
      exact ih (outer + 1)
  | all members ih | any members ih =>
      have hmembers : (members.map (normalizeUnder (outer % 2 == 1))).flatMap literals =
          (members.flatMap (countedLeaves outer)).map fun counted =>
            signed counted.1 counted.2 := by
        rw [List.flatMap_map, List.map_flatMap, List.flatMap_def, List.flatMap_def]
        congr 1
        apply List.map_congr_left
        intro f hmember
        exact ih f hmember outer
      simp only [normalizeUnder, normalizeAll_eq_map, countedLeaves, countedLeavesOfAll_eq_flatMap]
      split <;> rw [literals, literalsOfAll_eq_flatMap, hmembers]
  | condition c | past p | change c =>
      by_cases hodd : outer % 2 = 1 <;>
        simp [normalizeUnder, literals, countedLeaves, signed, hodd]

/-- The normal form of a filter is true where the filter is, whatever the truth values
of its leaves, and is made by groups alone of the leaves of the filter. These stand in
it unchanged and in their order, a leaf under one negation if it stood under an odd
number of them and bare otherwise. -/
theorem normalize_keeps_truth_and_leaves (f : Filter) :
    (∀ truth, f.normalize.eval truth = f.eval truth) ∧
      f.normalize.literals =
        (f.countedLeaves 0).map fun counted => signed counted.1 counted.2 := by
  constructor
  · intro truth
    rw [normalize, normalizeUnder_eval, Bool.xor_false]
  · exact normalizeUnder_literals 0 f

/-- Normal forms are left as they are. -/
theorem normalize_of_isNormal {f : Filter} (hnormal : f.isNormal = true) : f.normalize = f := by
  induction f with
  | not inner =>
      cases inner with
      | condition c | past p | change c => rfl
      | all members | any members | not inner => cases hnormal
  | all members ih | any members ih =>
      have hmembers : ∀ f ∈ members, f.isNormal = true := by simpa [isNormal] using hnormal
      have hsame : members.map (normalizeUnder false) = members := by
        rw [List.map_congr_left (g := id), List.map_id]
        intro f hmember
        exact ih f hmember (hmembers f hmember)
      simp [normalize, normalizeUnder, hsame]
  | condition c | past p | change c => rfl

/-- Only normal forms pass the check, under any limit. -/
theorem isNormal_of_check {f : Filter} {limit : Nat} (h : f.check limit = .ok ()) :
    f.isNormal = true := by
  induction f with
  | not inner =>
      by_cases hleaf : inner.isLeaf = true
      · exact hleaf
      · simp [check, hleaf] at h
  | all members ih | any members ih =>
      have hmembers : checkAll limit members = .ok () := by
        simp only [check] at h
        split at h
        · cases h
        · exact h
      rw [isNormal, areNormal_eq_all, List.all_eq_true]
      intro f hmember
      exact ih f hmember ((checkAll_eq_ok_iff limit members).mp hmembers f hmember)
  | condition c | past p | change c => rfl

/-- Where no group is too large, the check can only fail on the negation of a group. -/
theorem check_eq_error_of_breadth_le {f : Filter} {limit : Nat} {fault : Fault}
    (hbreadth : f.breadth ≤ limit) (h : f.check limit = .error fault) :
    ∃ inner, fault = .negatedGroup inner := by
  induction f with
  | not inner =>
      simp only [check] at h
      split at h
      · cases h
      · exact ⟨inner, (Except.error.inj h).symm⟩
  | all members ih | any members ih =>
      simp only [breadth, Nat.max_le] at hbreadth
      have hmembers : checkAll limit members = .error fault := by
        rw [check, if_neg (by omega)] at h
        exact h
      obtain ⟨f, hmember, hfault⟩ := check_of_checkAll_eq_error hmembers
      exact ih f hmember ((broadest_le_iff members limit).mp hbreadth.2 f hmember) hfault
  | condition c | past p | change c => cases h

end Filter

namespace Environment

theorem visit_eq_ok_iff (e : Environment) (limit : Nat) (caller : Caller) (f : Filter)
    (o : Outcome) :
    e.visit limit caller f = .ok o ↔ f.check limit = .ok () ∧ e.outcome caller f = o := by
  unfold visit
  cases f.check limit with
  | error fault => simp [Except.map]
  | ok => simp [Except.map]

theorem visit_eq_error_iff (e : Environment) (limit : Nat) (caller : Caller) (f : Filter)
    (fault : Fault) : e.visit limit caller f = .error fault ↔ f.check limit = .error fault := by
  unfold visit
  cases f.check limit with
  | error fault => simp [Except.map]
  | ok => simp [Except.map]

/-- Making, recognising and visiting normal forms agree on which filters are normal.
What normalizing makes is recognised, and what is recognised is exactly what normalizing
leaves alone, so that doing it twice is doing it once. If no group is larger than the
limit, a visit answers exactly the normal filters and refuses the others for the
negation of a group. Under no limit is a normal filter refused for that. -/
theorem normal_forms_agree (f : Filter) :
    f.normalize.isNormal = true ∧ (f.isNormal = true ↔ f.normalize = f) ∧
      f.normalize.normalize = f.normalize ∧
      ∀ (e : Environment) (caller : Caller) (limit : Nat),
        (f.breadth ≤ limit →
          ((∃ o, e.visit limit caller f = .ok o) ↔ f.isNormal = true) ∧
          (f.isNormal = false →
            ∃ inner, e.visit limit caller f = .error (.negatedGroup inner))) ∧
        (f.isNormal = true → ∀ inner, e.visit limit caller f ≠ .error (.negatedGroup inner)) := by
  have hmade : f.normalize.isNormal = true := Filter.normalizeUnder_isNormal false f
  refine ⟨hmade, ⟨Filter.normalize_of_isNormal, fun h => h ▸ hmade⟩,
    Filter.normalize_of_isNormal hmade, ?_⟩
  intro e caller limit
  refine ⟨fun hbreadth => ⟨⟨?_, ?_⟩, ?_⟩, ?_⟩
  · rintro ⟨o, ho⟩
    exact Filter.isNormal_of_check ((e.visit_eq_ok_iff limit caller f o).mp ho).1
  · intro hnormal
    have hcheck := (Filter.check_eq_ok_iff hnormal limit).mpr hbreadth
    exact ⟨e.outcome caller f, (e.visit_eq_ok_iff limit caller f _).mpr ⟨hcheck, rfl⟩⟩
  · intro hother
    cases hcheck : f.check limit with
    | ok =>
        have hnormal := Filter.isNormal_of_check hcheck
        rw [hother] at hnormal
        cases hnormal
    | error fault =>
        obtain ⟨inner, rfl⟩ := Filter.check_eq_error_of_breadth_le hbreadth hcheck
        exact ⟨inner, (e.visit_eq_error_iff limit caller f _).mpr hcheck⟩
  · intro hnormal inner hvisit
    have hcheck := (e.visit_eq_error_iff limit caller f _).mp hvisit
    obtain ⟨count, hfault⟩ := Filter.check_eq_error hnormal hcheck
    cases hfault

/-- The negation of a group, inside another group. It is refused although no group is too large. -/
theorem normal_forms_agree_on_negated_group :
    let a : Filter := .condition ⟨"a", .equals, .empty⟩
    let f : Filter := .any [a, .not (.all [a, .not a])]
    let e : Environment := ⟨fun _ _ => [], fun _ _ => .nothing, fun _ _ => .nothing⟩
    f.breadth ≤ 2 ∧ f.isNormal = false ∧
      ∃ inner, e.visit 2 ⟨none, false⟩ f = .error (.negatedGroup inner) := by
  intro a f e
  have hbreadth : f.breadth ≤ 2 := by decide
  exact ⟨hbreadth, rfl, (((normal_forms_agree f).2.2.2 e ⟨none, false⟩ 2).1 hbreadth).2 rfl⟩

end Environment

end FilterCompiler
