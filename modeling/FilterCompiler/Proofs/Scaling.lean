import FilterCompiler.Catalog
import FilterCompiler.Proofs.Comparison

/-!
Number fields of a configuration. The numbers of a field that has been checked are multiplied by a
factor other than zero. A positive factor keeps their order, so that a comparison finds the numbers
it asks for. A negative factor passes the check as well and turns every comparison around.
-/

namespace FilterCompiler

namespace Operator

variable {α β : Type} [LinearOrder α] [LinearOrder β] {g : α → β}

theorem relates_iff_of_strictMono (hg : StrictMono g) (operator : Operator) (a b : α) :
    operator.Relates (g a) (g b) ↔ operator.Relates a b := by
  cases operator with
  | less | greater => exact hg.lt_iff_lt
  | lessOrEqual | greaterOrEqual => exact hg.le_iff_le
  | _ => exact Iff.rfl

theorem relates_iff_of_strictAnti (hg : StrictAnti g) (operator : Operator) (a b : α) :
    operator.Relates (g a) (g b) ↔ operator.Relates b a := by
  cases operator with
  | less | greater => exact hg.lt_iff_gt
  | lessOrEqual | greaterOrEqual => exact hg.le_iff_ge
  | _ => exact Iff.rfl

/-- What becomes of a comparison when both numbers are multiplied. -/
theorem relates_mul_iff (operator : Operator) {factor : Int} (hfactor : factor ≠ 0) (a b : Int) :
    operator.Relates (a * factor) (b * factor) ↔
      if 0 < factor then operator.Relates a b else operator.Relates b a := by
  split
  · rename_i hpositive
    exact relates_iff_of_strictMono (strictMono_mul_right_of_pos hpositive) operator a b
  · rename_i hnegative
    have hbelow : factor < 0 := by omega
    exact relates_iff_of_strictAnti (strictAnti_mul_right hbelow) operator a b

end Operator

namespace Field

variable {f : Field}

/-- What the numbers of the field are multiplied by before they are indexed. -/
def factor (f : Field) : Int64 := f.multiplier.getD 1

/-- A field that has been checked has no factor zero. -/
theorem factor_ne_zero (hvalid : f.validate = .ok ()) : f.factor.toInt ≠ 0 := by
  have hmultiplier : f.multiplier ≠ some 0 := by
    intro hzero
    simp only [validate, hzero, if_true] at hvalid
    split at hvalid
    · cases hvalid
    split at hvalid <;> cases hvalid
  rw [factor, ← Int64.toInt_zero, ne_eq, Int64.toInt_inj]
  cases hfactor : f.multiplier with
  | none => decide
  | some m =>
      rintro rfl
      exact hmultiplier hfactor

/-- Comparisons with a sortable number field are answered by the ranges of its numbers. -/
theorem find?_rules_number (hkind : f.kind = .number) (hsortable : f.sortable = true)
    (now : Option Int) {operator : Operator} (hrelational : operator.isRelational = true) :
    (f.rules now).find? (·.handles operator) =
      some (.comparison (.numbers f.factor f.sentinel)) := by
  have hmembership : Rule.Membership.handles operator = false := by
    cases operator with
    | less | lessOrEqual | greater | greaterOrEqual => rfl
    | _ => cases hrelational
  have hcomparison : Rule.Comparison.handles operator = true := hrelational
  simp [rules, hkind, hsortable, measured, Rule.handles, hmembership, hcomparison,
    Rule.Comparison.numbers, factor]

end Field

/-- A literal gives the product of its integer with the factor, if that is a 64-bit integer. -/
theorem Value.exists_readScaled? {multiplier n : Int64} {l : Literal} (hl : l.integer? = some n)
    (hfits : n.toInt * multiplier.toInt ∈ Set.Icc Int64.minValue.toInt Int64.maxValue.toInt) :
    ∃ k, readScaled? multiplier l = some k ∧ k.toInt = n.toInt * multiplier.toInt := by
  have hvalue : (Int64.ofInt (n.toInt * multiplier.toInt)).toInt = n.toInt * multiplier.toInt :=
    Int64.toInt_ofInt_of_le hfits.1 (Int.lt_add_one_of_le hfits.2)
  exact ⟨_, readScaled?_eq_some_iff.mpr ⟨n, hl, hvalue.symm⟩, hvalue⟩

/-- In a sortable number field that has been checked, a number that was indexed lies in the
range that a comparison builds for another number exactly when it compares with it as the
operator says, if the factor is positive. If the factor is negative, it lies there exactly when
the two compare the other way round. -/
theorem Field.number_fields_compare_by_sign (f : Field) (hkind : f.kind = .number)
    (hsortable : f.sortable = true) (hvalid : f.validate = .ok ()) (now : Option Int)
    (operator : Operator) (hrelational : operator.isRelational = true) :
    ∃ c : Rule.Comparison, (f.rules now).find? (·.handles operator) = some (.comparison c) ∧
      ∀ (value literal : Literal) (x n : Int64),
        value.integer? = some x → literal.integer? = some n →
        x.toInt * f.factor.toInt ∈ Set.Icc Int64.minValue.toInt Int64.maxValue.toInt →
        n.toInt * f.factor.toInt ∈ Set.Icc Int64.minValue.toInt Int64.maxValue.toInt →
        ∃ word range, c.measure.word? value = some word ∧
          c.range? f.indexField operator literal = some range ∧
          (range.contains word = true ↔
            if 0 < f.factor.toInt then operator.Relates x.toInt n.toInt
            else operator.Relates n.toInt x.toInt) := by
  refine ⟨.numbers f.factor f.sentinel, find?_rules_number hkind hsortable now hrelational, ?_⟩
  intro value literal x n hx hn hxfits hnfits
  obtain ⟨scaledValue, hvalue, hproduct⟩ := Value.exists_readScaled? hx hxfits
  obtain ⟨scaledLiteral, hliteral, hbound⟩ := Value.exists_readScaled? hn hnfits
  obtain ⟨range, hrange⟩ :=
    Rule.Comparison.exists_ofBounds? hrelational f.indexField
      (.exact (Value.sortable scaledLiteral))
  refine ⟨Value.sortable scaledValue, range, ?_, ?_, ?_⟩
  · have hword : (Value.Measure.number f.factor true).word? value =
        (Value.readScaled? f.factor value).map Value.sortable := Option.map_map ..
    rw [Rule.Comparison.numbers, hword, hvalue]
    rfl
  · rw [Rule.Comparison.numbers_range?_eq, hliteral]
    exact hrange
  · rw [Rule.Comparison.ofBounds?_sortable_contains hrange, hproduct, hbound]
    exact operator.relates_mul_iff (factor_ne_zero hvalid) x.toInt n.toInt

/-- Hours that are indexed as minutes: three hours, written with blanks
around them, are more than two. -/
theorem Field.number_fields_compare_by_sign_in_minutes :
    let f : Field :=
      { names := ["effort"], indexField := "effort", kind := .number, multiplier := some 60,
        sortable := true }
    let c := Rule.Comparison.numbers 60 none
    f.validate = .ok () ∧ (f.rules none).find? (·.handles .greater) = some (.comparison c) ∧
      ∃ word range, c.measure.word? (.text " 3 ") = some word ∧
        c.range? "effort" .greater (.number 2) = some range ∧ range.contains word = true := by
  intro f c
  have hvalid : f.validate = .ok () := toOption_eq_some_iff.mp (by decide +kernel)
  have hanswered : (f.rules none).find? (·.handles .greater) = some (.comparison c) := rfl
  obtain ⟨answering, hrule, hcompare⟩ :=
    number_fields_compare_by_sign f rfl rfl hvalid none .greater rfl
  obtain rfl : c = answering := Rule.comparison.inj (Option.some.inj (hanswered.symm.trans hrule))
  obtain ⟨word, range, hword, hrange, hcontains⟩ :=
    hcompare (.text " 3 ") (.number 2) 3 2 (by decide +kernel) rfl (by decide) (by decide)
  have hmore : Operator.Relates .greater (3 : Int64).toInt (2 : Int64).toInt :=
    show (2 : Int64).toInt < (3 : Int64).toInt by decide
  exact ⟨hvalid, hrule, word, range, hword, hrange, hcontains.mpr hmore⟩

/-- With the factor minus one, 1 is less than 2 and lies outside the range that is built for 2. -/
theorem Field.not_number_fields_compare :
    let f : Field :=
      { names := ["votes"], indexField := "votes", kind := .number, multiplier := some (-1),
        sortable := true }
    let c := Rule.Comparison.numbers (-1) none
    let range : WordRange := .below "votes" "7ffffffffffffffe" false
    f.validate = .ok () ∧ (f.rules none).find? (·.handles .less) = some (.comparison c) ∧
      c.measure.word? (.number 1) = some "7fffffffffffffff" ∧
      c.range? "votes" .less (.number 2) = some range ∧
      Operator.Relates .less (1 : Int) 2 ∧ ¬range.contains "7fffffffffffffff" = true := by
  intro f c range
  have hvalid : f.validate = .ok () := toOption_eq_some_iff.mp (by decide +kernel)
  have hless : Operator.Relates .less (1 : Int) 2 := show (1 : Int) < 2 by decide
  exact ⟨hvalid, rfl, by decide +kernel, by decide +kernel, hless, by decide +kernel⟩

end FilterCompiler
