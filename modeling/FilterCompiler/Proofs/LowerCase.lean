import FilterCompiler.FreeText.Expression
import FilterCompiler.Text.Basic

/-!
What lower-casing leaves alone. A character may be lower-cased to several, and the capital sigma by
its neighbours, but no character vanishes. A set of characters is kept if nothing is lower-cased
into it or out of it, which can be read off the tables; the wild cards of a pattern and white space
are such sets, so both stay where they are in a text.
-/

namespace FilterCompiler

namespace Text

/-- The lower-case form of a character between those before it, held in
reverse, and those after it. -/
def lowerBetween (before after : List Char) (c : Char) : List Char :=
  if c = 'Σ' then if startsCased before && !startsCased after then ['ς'] else ['σ'] else lowerChar c

theorem lowerAfter_cons (before : List Char) (c : Char) (cs : List Char) :
    lowerAfter before (c :: cs) = lowerBetween before cs c ++ lowerAfter (c :: before) cs := rfl

theorem lowerBetween_ne_nil (before after : List Char) (c : Char) :
    lowerBetween before after c ≠ [] := by
  unfold lowerBetween lowerChar
  split
  · split <;> simp
  split
  · simp
  split
  · simp
  · split <;> simp

/-- Only the empty text has an empty lower-case form. -/
theorem lowerChars_eq_nil_iff (cs : List Char) : lowerChars cs = [] ↔ cs = [] := by
  cases cs with
  | nil => simp [lowerChars, lowerAfter]
  | cons c cs => simp [lowerChars, lowerAfter_cons, lowerBetween_ne_nil]

theorem lower_eq_empty_iff (s : String) : lower s = "" ↔ s = "" := by
  rw [← String.toList_inj, lower, String.toList_ofList, ← String.toList_inj]
  exact lowerChars_eq_nil_iff s.toList

/-- The run lies outside the ranges, and so do the lower-case forms of its characters. -/
def CaseRun.avoids (run : CaseRun) (ranges : List (Nat × Nat)) : Bool :=
  ranges.all fun range =>
    0 < range.1 && (run.last < range.1 || range.2 < run.first) &&
      (run.image + (run.last - run.first) < range.1 || range.2 < run.image)

/-- The characters that are lower-cased by a rule of their own, with their lower-case forms. -/
def lowerExceptions : List Char := ['Σ', 'σ', 'ς', '\u0130', 'i', '\u0307']

/-- No character is lower-cased into the ranges or out of them. -/
def lowerKeeps (ranges : List (Nat × Nat)) : Bool :=
  ((List.range 128).all fun n =>
      inRanges ranges (Char.ofNat n).toLower == inRanges ranges (Char.ofNat n)) &&
    lowerExceptions.all (!inRanges ranges ·) && caseRuns.all (·.avoids ranges)

theorem inRanges_eq_false {ranges : List (Nat × Nat)} {c : Char}
    (h : ∀ range ∈ ranges, c.toNat < range.1 ∨ range.2 < c.toNat) : inRanges ranges c = false := by
  simp only [inRanges, List.any_eq_false, Bool.and_eq_true, decide_eq_true_eq]
  intro range hrange
  have houtside := h range hrange
  omega

/-- A form that is no character would be the character zero. -/
theorem CaseRun.lower_toNat (run : CaseRun) (c : Char) :
    (run.lower c).toNat = run.image + (c.toNat - run.first) ∨ (run.lower c).toNat = 0 := by
  rw [CaseRun.lower, Char.ofNat]
  by_cases hvalid : (run.image + (c.toNat - run.first)).isValidChar
  · rw [dif_pos hvalid]
    exact Or.inl rfl
  · rw [dif_neg hvalid]
    exact Or.inr rfl

theorem CaseRun.inRanges_lower {run : CaseRun} {ranges : List (Nat × Nat)} {c : Char}
    (havoids : run.avoids ranges = true) (hc : run.contains c = true) :
    inRanges ranges (run.lower c) = inRanges ranges c := by
  simp only [CaseRun.contains, Bool.and_eq_true, decide_eq_true_eq] at hc
  simp only [CaseRun.avoids, List.all_eq_true, Bool.and_eq_true, Bool.or_eq_true,
    decide_eq_true_eq] at havoids
  have hbefore : inRanges ranges c = false := by
    apply inRanges_eq_false
    intro range hrange
    have houtside := havoids range hrange
    omega
  have hafter : inRanges ranges (run.lower c) = false := by
    apply inRanges_eq_false
    intro range hrange
    have houtside := havoids range hrange
    have hcode := run.lower_toNat c
    omega
  rw [hbefore, hafter]

section LowerKeeps

variable {ranges : List (Nat × Nat)} (hkeeps : lowerKeeps ranges = true)
include hkeeps

theorem inRanges_lowerExceptions {c x : Char} (hc : c ∈ lowerExceptions)
    (hx : x ∈ lowerExceptions) : inRanges ranges x = inRanges ranges c := by
  simp only [lowerKeeps, Bool.and_eq_true, List.all_eq_true, Bool.not_eq_true'] at hkeeps
  rw [hkeeps.1.2 c hc, hkeeps.1.2 x hx]

theorem inRanges_of_mem_lowerChar {c x : Char} (h : x ∈ lowerChar c) :
    inRanges ranges x = inRanges ranges c := by
  unfold lowerChar at h
  split at h
  · rename_i hsmall
    simp only [lowerKeeps, Bool.and_eq_true, List.all_eq_true, beq_iff_eq] at hkeeps
    obtain rfl := List.mem_singleton.mp h
    have hlower := hkeeps.1.1 c.toNat (List.mem_range.mpr hsmall)
    rwa [Char.ofNat_toNat] at hlower
  split at h
  · rename_i hdotted
    have hform : x ∈ lowerExceptions := by
      rcases List.mem_cons.mp h with rfl | h
      · decide
      · obtain rfl := List.mem_singleton.mp h
        decide
    rw [hdotted]
    exact inRanges_lowerExceptions hkeeps (by decide) hform
  split at h
  · rename_i run hrun
    simp only [lowerKeeps, Bool.and_eq_true, List.all_eq_true] at hkeeps
    obtain rfl := List.mem_singleton.mp h
    have hcontains := List.find?_some hrun
    exact CaseRun.inRanges_lower (hkeeps.2 run (List.mem_of_find?_eq_some hrun)) hcontains
  · obtain rfl := List.mem_singleton.mp h
    rfl

/-- The lower-case form of a character is in the ranges if the character
is, and outside of them if not. -/
theorem inRanges_of_mem_lowerBetween {before after : List Char} {c x : Char}
    (h : x ∈ lowerBetween before after c) : inRanges ranges x = inRanges ranges c := by
  unfold lowerBetween at h
  split at h
  · rename_i hsigma
    have hform : x ∈ lowerExceptions := by
      split at h <;> obtain rfl := List.mem_singleton.mp h <;> decide
    rw [hsigma]
    exact inRanges_lowerExceptions hkeeps (by decide) hform
  · exact inRanges_of_mem_lowerChar hkeeps h

theorem any_inRanges_lowerAfter (before cs : List Char) :
    (lowerAfter before cs).any (inRanges ranges) = cs.any (inRanges ranges) := by
  induction cs generalizing before with
  | nil => rfl
  | cons c cs ih =>
      have hform : (lowerBetween before cs c).any (inRanges ranges) = inRanges ranges c := by
        obtain ⟨first, hfirst⟩ := List.exists_mem_of_ne_nil _ (lowerBetween_ne_nil before cs c)
        rw [Bool.eq_iff_iff, List.any_eq_true]
        constructor
        · rintro ⟨x, hx, hin⟩
          rwa [← inRanges_of_mem_lowerBetween hkeeps hx]
        · intro hin
          exact ⟨first, hfirst, (inRanges_of_mem_lowerBetween hkeeps hfirst).trans hin⟩
      rw [lowerAfter_cons, List.any_append, hform, ih, List.any_cons]

/-- A text starts with a character in the ranges exactly when its lower-case form does. -/
theorem head?_inRanges_lowerChars (cs : List Char) :
    (lowerChars cs).head?.any (inRanges ranges) = cs.head?.any (inRanges ranges) := by
  cases cs with
  | nil => rfl
  | cons c cs =>
      obtain ⟨first, others, hform⟩ := List.exists_cons_of_ne_nil (lowerBetween_ne_nil [] cs c)
      have hfirst : first ∈ lowerBetween [] cs c := by simp [hform]
      rw [lowerChars, lowerAfter_cons, hform]
      exact inRanges_of_mem_lowerBetween hkeeps hfirst

theorem getLast?_inRanges_lowerAfter (before cs : List Char) :
    (lowerAfter before cs).getLast?.any (inRanges ranges) = cs.getLast?.any (inRanges ranges) := by
  induction cs generalizing before with
  | nil => rfl
  | cons c cs ih =>
      rw [lowerAfter_cons]
      cases cs with
      | nil =>
          have hne := lowerBetween_ne_nil before [] c
          have hlast := List.getLast_mem hne
          simp only [lowerAfter, List.append_nil, List.getLast?_eq_some_getLast hne,
            List.getLast?_singleton, Option.any_some]
          exact inRanges_of_mem_lowerBetween hkeeps hlast
      | cons d cs =>
          have hne : lowerAfter (c :: before) (d :: cs) ≠ [] := by
            simp [lowerAfter_cons, lowerBetween_ne_nil]
          rw [List.getLast?_append, List.getLast?_eq_some_getLast hne, Option.some_or,
            ← List.getLast?_eq_some_getLast hne, ih, List.getLast?_cons_cons]

/-- A text ends with a character in the ranges exactly when its lower-case form does. -/
theorem getLast?_inRanges_lowerChars (cs : List Char) :
    (lowerChars cs).getLast?.any (inRanges ranges) = cs.getLast?.any (inRanges ranges) :=
  getLast?_inRanges_lowerAfter hkeeps [] cs

end LowerKeeps

theorem lowerKeeps_blankRanges : lowerKeeps blankRanges = true := by decide +kernel

end Text

namespace FreeText

def wildRanges : List (Nat × Nat) := [(0x2a, 0x2a), (0x3f, 0x3f)]

theorem isWild_eq_inRanges : isWild = Text.inRanges wildRanges := by
  funext c
  have hcode (d : Char) :
      (c == d) = (decide (d.toNat ≤ c.toNat) && decide (c.toNat ≤ d.toNat)) := by
    rw [Bool.eq_iff_iff, beq_iff_eq, Bool.and_eq_true, decide_eq_true_eq, decide_eq_true_eq,
      ← Char.toNat_inj]
    omega
  rw [isWild, hcode, hcode]
  simp [Text.inRanges, wildRanges]

theorem lowerKeeps_wildRanges : Text.lowerKeeps wildRanges = true := by decide +kernel

/-- A text has wild cards exactly when its lower-case form has. -/
theorem any_isWild_lowerChars (cs : List Char) :
    (Text.lowerChars cs).any isWild = cs.any isWild := by
  rw [isWild_eq_inRanges]
  exact Text.any_inRanges_lowerAfter lowerKeeps_wildRanges [] cs

/-- A text starts with a wild card exactly when its lower-case form does. -/
theorem head?_isWild_lowerChars (cs : List Char) :
    (Text.lowerChars cs).head?.any isWild = cs.head?.any isWild := by
  rw [isWild_eq_inRanges]
  exact Text.head?_inRanges_lowerChars lowerKeeps_wildRanges cs

end FreeText

end FilterCompiler
