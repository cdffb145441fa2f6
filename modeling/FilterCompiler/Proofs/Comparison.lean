import FilterCompiler.Proofs.Confinement
import FilterCompiler.Proofs.Digits
import FilterCompiler.Proofs.Holding
import FilterCompiler.Proofs.Partition

/-!
Comparison by ranges of words. Where an encoding keeps the order of the values, the range that an
operator asks for holds exactly the words of the values that compare as the operator says. What is
left for each measure is that its encoding keeps the order; for integers in the sortable form it
does, from the smallest one to the largest.
-/

namespace FilterCompiler

namespace Operator

/-- What an operator of comparison says about two values. -/
def Relates {α : Type} [LT α] [LE α] : Operator → α → α → Prop
  | .less, a, b => a < b
  | .lessOrEqual, a, b => a ≤ b
  | .greater, a, b => b < a
  | .greaterOrEqual, a, b => b ≤ a
  | _, _, _ => False

/-- The end of a span of values that a value has to be compared with. -/
def decisiveEnd {α : Type} (operator : Operator) (first last : α) : α :=
  match operator with
  | .less | .greaterOrEqual => first
  | _ => last

theorem decisiveEnd_self {α : Type} (operator : Operator) (a : α) :
    operator.decisiveEnd a a = a := by
  cases operator <;> rfl

end Operator

namespace Rule.Comparison

variable {field : String} {operator : Operator}

/-- Every operator of comparison turns bounds into a range. -/
theorem exists_ofBounds? (hrelational : operator.isRelational = true) (field : String)
    (b : Value.Bounds) : ∃ range, ofBounds? field operator b = some range := by
  cases operator with
  | less | lessOrEqual | greater | greaterOrEqual => exact ⟨_, rfl⟩
  | _ => cases hrelational

/-- The range between the words of two values, for an encoding that keeps the order of values. -/
theorem ofBounds?_contains {α : Type} [LinearOrder α] {write : α → String} {values : Set α}
    (hwrite : StrictMonoOn write values) {first last value : α} (hfirst : first ∈ values)
    (hlast : last ∈ values) (hvalue : value ∈ values) {range : WordRange}
    (hrange : ofBounds? field operator ⟨write first, write last⟩ = some range) :
    range.contains (write value) = true ↔
      operator.Relates value (operator.decisiveEnd first last) := by
  cases operator with
  | less =>
      obtain rfl := Option.some.inj hrange
      exact (WordRange.below_contains ..).trans (hwrite.lt_iff_lt hvalue hfirst)
  | lessOrEqual =>
      obtain rfl := Option.some.inj hrange
      exact (WordRange.below_contains ..).trans (hwrite.le_iff_le hvalue hlast)
  | greater =>
      obtain rfl := Option.some.inj hrange
      exact (WordRange.above_contains ..).trans (hwrite.lt_iff_lt hlast hvalue)
  | greaterOrEqual =>
      obtain rfl := Option.some.inj hrange
      exact (WordRange.above_contains ..).trans (hwrite.le_iff_le hfirst hvalue)
  | _ => cases hrange

/-- A single range finds the words in it, without the sentinel. -/
theorem outcome_matchedBy {c : Comparison} (hrelational : operator.isRelational = true)
    {literals : List Literal} {range : WordRange}
    (hsole : literals.filterMap (c.range? field operator) = [range]) {d : Document} {word : String}
    (hd : d.Holds field word) :
    (c.outcome field operator (.single literals)).toQuery.matchedBy d = true ↔
      range.contains word = true ∧ c.sentinel ≠ some word := by
  have hfield : range.field = field := by
    obtain ⟨l, -, hl⟩ := List.mem_filterMap.mp (hsole ▸ List.mem_singleton_self range)
    exact range?_field hl
  have hfound : (Query.range range).matchedBy d = range.contains word := hd.range_matchedBy hfield
  rw [outcome, if_pos (show handles operator = true from hrelational), hsole]
  cases hsentinel : c.sentinel with
  | none => simp [Outcome.toQuery, hfound]
  | some sentinel =>
      cases hin : range.contains word <;>
        simp [Outcome.toQuery, Query.boolean_matchedBy, hfound, hin, hd.ofTerm_matchedBy]

/-- Without exactly one range there is nothing to find. -/
theorem outcome_eq_nothing {c : Comparison} {literals : List Literal}
    (hnone : ∀ range, literals.filterMap (c.range? field operator) ≠ [range]) :
    c.outcome field operator (.single literals) = .nothing := by
  rw [outcome]
  split
  · split
    · rename_i range hsole _
      exact absurd hsole (hnone range)
    · rename_i range _ hsole _
      exact absurd hsole (hnone range)
    · rfl
  · rfl

end Rule.Comparison

theorem Text.int64?_eq_some_iff {n : Int} {k : Int64} : int64? n = some k ↔ n = k.toInt := by
  unfold int64?
  constructor
  · intro h
    split at h
    · rename_i hbounds
      rw [← Option.some.inj h, Int64.toInt_ofInt_of_le hbounds.1 (Int.lt_add_one_of_le hbounds.2)]
    · cases h
  · rintro rfl
    rw [if_pos ⟨k.minValue_le_toInt, k.toInt_le⟩, Int64.ofInt_toInt]

namespace Value

/-- The sortable form keeps the order of all 64-bit integers. -/
theorem sortable_strictMonoOn :
    StrictMonoOn (fun n => sortable (Int64.ofInt n))
      (Set.Icc Int64.minValue.toInt Int64.maxValue.toInt) := by
  intro a ha b hb hless
  have hvalue {n : Int} (hn : n ∈ Set.Icc Int64.minValue.toInt Int64.maxValue.toInt) :
      (Int64.ofInt n).toInt = n := Int64.toInt_ofInt_of_le hn.1 (Int.lt_add_one_of_le hn.2)
  have hcount {n : Int} (hn : n ∈ Set.Icc Int64.minValue.toInt Int64.maxValue.toInt) :
      0 ≤ n + 0x8000000000000000 ∧ (n + 0x8000000000000000).toNat < 16 ^ 16 := by
    have hmin : Int64.minValue.toInt = -0x8000000000000000 := rfl
    have hmax : Int64.maxValue.toInt = 0x7fffffffffffffff := rfl
    rw [Set.mem_Icc, hmin, hmax] at hn
    omega
  simp only [sortable, String.lt_iff_toList_lt, String.toList_ofList, hvalue ha, hvalue hb]
  apply Text.padded_strictMonoOn (by decide) (by decide) (by decide) (hcount ha).2 (hcount hb).2
  have := (hcount ha).1
  omega

theorem sortable_inj {a b : Int64} : sortable a = sortable b ↔ a = b := by
  have h := sortable_strictMonoOn.eq_iff_eq ⟨a.minValue_le_toInt, a.toInt_le⟩
    ⟨b.minValue_le_toInt, b.toInt_le⟩
  simpa only [Int64.ofInt_toInt, Int64.toInt_inj] using h

end Value

/-- The integer that a literal denotes: a number itself, a text that is written as an integer with
nothing but white space around it. -/
def Literal.integer? : Literal → Option Int64
  | .number n => some n
  | .text s => Text.readInt64? (Text.trimChars s.toList)
  | .empty => none

namespace Value

/-- The literal denotes an integer whose product with the factor is a 64-bit integer, namely `k`. -/
def Scales (multiplier : Int64) (l : Literal) (k : Int64) : Prop :=
  ∃ n, l.integer? = some n ∧ n.toInt * multiplier.toInt = k.toInt

theorem readScaled?_eq_some_iff {multiplier k : Int64} {l : Literal} :
    readScaled? multiplier l = some k ↔ Scales multiplier l k := by
  have hproduct (n : Int64) :
      product? n multiplier = some k ↔ n.toInt * multiplier.toInt = k.toInt :=
    Text.int64?_eq_some_iff
  cases l with
  | number n => simp [readScaled?, Scales, Literal.integer?, hproduct]
  | text s => simp [readScaled?, Scales, Literal.integer?, Option.bind_eq_some_iff, hproduct]
  | empty => simp [readScaled?, Scales, Literal.integer?]

/-- Among the literals there is exactly one that gives an integer, and it gives `k`. -/
def SoleInteger (multiplier : Int64) (literals : List Literal) (k : Int64) : Prop :=
  ∃ before l after, literals = before ++ l :: after ∧ Scales multiplier l k ∧
    ∀ other ∈ before ++ after, ∀ n, ¬Scales multiplier other n

theorem filterMap_readScaled?_eq_singleton_iff {multiplier k : Int64} {literals : List Literal} :
    literals.filterMap (readScaled? multiplier) = [k] ↔ SoleInteger multiplier literals k := by
  have hnone (l : Literal) : readScaled? multiplier l = none ↔ ∀ n, ¬Scales multiplier l n := by
    simp only [Option.eq_none_iff_forall_ne_some, ne_eq, readScaled?_eq_some_iff]
  simp only [List.filterMap_eq_cons_iff, List.filterMap_eq_nil_iff, SoleInteger,
    readScaled?_eq_some_iff, hnone, List.forall_mem_append]
  constructor
  · rintro ⟨before, l, after, hliterals, hbefore, hl, hafter⟩
    exact ⟨before, l, after, hliterals, hl, hbefore, hafter⟩
  · rintro ⟨before, l, after, hliterals, hl, hbefore, hafter⟩
    exact ⟨before, l, after, hliterals, hbefore, hl, hafter⟩

end Value

namespace Rule.Comparison

open Value (sortable readScaled? SoleInteger)

/-- Numbers in the sortable form, with a sentinel or without. -/
def numbers (multiplier : Int64) (sentinel : Option String) : Comparison :=
  ⟨.number multiplier true, sentinel, false⟩

/-- The range of a literal is that of the integer that it gives. -/
theorem numbers_range?_eq (multiplier : Int64) (sentinel : Option String) (field : String)
    (operator : Operator) (l : Literal) :
    (numbers multiplier sentinel).range? field operator l =
      (readScaled? multiplier l).bind fun k => ofBounds? field operator (.exact (sortable k)) := by
  cases l with
  | empty => rfl
  | number n | text s => exact Option.bind_map ..

/-- The ranges of several literals are those of the integers that they give. -/
theorem exists_numbers_range {operator : Operator} (hrelational : operator.isRelational = true)
    (multiplier : Int64) (sentinel : Option String) (field : String) :
    ∃ range : Int64 → WordRange,
      (∀ k, ofBounds? field operator (.exact (sortable k)) = some (range k)) ∧
        ∀ literals : List Literal,
          literals.filterMap ((numbers multiplier sentinel).range? field operator) =
            (literals.filterMap (readScaled? multiplier)).map range := by
  choose range hrange using fun k => exists_ofBounds? hrelational field (.exact (sortable k))
  refine ⟨range, hrange, ?_⟩
  intro literals
  rw [List.map_filterMap]
  apply List.filterMap_congr
  intro l _
  rw [numbers_range?_eq, Option.map_eq_bind]
  exact Option.bind_congr fun k _ => hrange k

variable {multiplier : Int64} {sentinel : Option String} {field : String} {operator : Operator}
  {literals : List Literal}

/-- The range of an integer holds the words of those that compare with it as the operator says. -/
theorem ofBounds?_sortable_contains {k v : Int64} {range : WordRange}
    (hrange : ofBounds? field operator (.exact (sortable k)) = some range) :
    range.contains (sortable v) = true ↔ operator.Relates v.toInt k.toInt := by
  have hmember (n : Int64) : n.toInt ∈ Set.Icc Int64.minValue.toInt Int64.maxValue.toInt :=
    ⟨n.minValue_le_toInt, n.toInt_le⟩
  have hbounds : ofBounds? field operator
      ⟨sortable (Int64.ofInt k.toInt), sortable (Int64.ofInt k.toInt)⟩ = some range := by
    rw [Int64.ofInt_toInt]
    exact hrange
  have hcontains := ofBounds?_contains Value.sortable_strictMonoOn (hmember k) (hmember k)
    (hmember v) hbounds
  rwa [Int64.ofInt_toInt, Operator.decisiveEnd_self] at hcontains

/-- The one integer among the literals is what the integers of the documents are compared with. -/
theorem numbers_outcome_matchedBy (hrelational : operator.isRelational = true) {k v : Int64}
    (hsole : literals.filterMap (readScaled? multiplier) = [k]) {d : Document}
    (hd : d.Holds field (sortable v)) :
    ((numbers multiplier sentinel).outcome field operator (.single literals)).toQuery.matchedBy d =
        true ↔
      operator.Relates v.toInt k.toInt ∧ sentinel ≠ some (sortable v) := by
  obtain ⟨range, hrange, hranges⟩ := exists_numbers_range hrelational multiplier sentinel field
  rw [outcome_matchedBy hrelational (by rw [hranges, hsole]; rfl) hd,
    ofBounds?_sortable_contains (hrange k)]
  rfl

theorem numbers_outcome_eq_nothing (hrelational : operator.isRelational = true)
    (hnone : ∀ k, literals.filterMap (readScaled? multiplier) ≠ [k]) :
    (numbers multiplier sentinel).outcome field operator (.single literals) = .nothing := by
  obtain ⟨range, -, hranges⟩ := exists_numbers_range hrelational multiplier sentinel field
  apply outcome_eq_nothing
  intro r hsole
  rw [hranges] at hsole
  obtain ⟨k, hk, -⟩ := List.map_eq_singleton_iff.mp hsole
  exact hnone k hk

/-- Equality finds the one integer of a literal, and nothing else in a field that holds a value. -/
theorem numbers_equals_matchedBy {l : Literal} {v : Int64} {d : Document}
    (hd : d.Holds field (sortable v))
    (hpresent : l = .empty → d.term ⟨"nonemptyfieldids", field⟩ = true) :
    (Membership.outcome ⟨(Value.Encoding.measure (.number multiplier true)).words, none⟩ field
      .equals (.single [l])).toQuery.matchedBy d = true ↔ readScaled? multiplier l = some v := by
  refine (Bool.eq_iff_iff.mp (Membership.anyOf_matchedBy _ field [l] d)).trans ?_
  have hword : (Value.Measure.number multiplier true).word? l =
      (readScaled? multiplier l).map sortable := Option.map_map ..
  obtain rfl | hvalue : l = .empty ∨ l.isEmpty = false := by cases l <;> simp [Literal.isEmpty]
  · have habsent :
        (Query.boolean [(.mustNot, .present field), (.must, .visible field)]).matchedBy d =
          false := by
      simp [Query.boolean_matchedBy, hpresent rfl]
    simp [Membership.words, Literal.isEmpty, Membership.wordQuery, Membership.absent, habsent,
      readScaled?]
  · cases hread : readScaled? multiplier l with
    | none => simp [Membership.words, Value.Encoding.words, hvalue, hword, hread]
    | some k =>
        simp [Membership.words, Value.Encoding.words, hvalue, hword, hread, Membership.wordQuery,
          hd.ofTerm_matchedBy, Value.sortable_inj]

/-- Where exactly one of the literals gives an integer, a comparison finds the documents whose
integer compares with it as the operator says, except for the sentinel; otherwise it finds nothing.
Equality with a literal finds what is neither below nor above it. A document that holds a value
lists the field among those with one, which only matters for the empty marker. -/
theorem numbers_compare_as_integers (multiplier : Int64) (sentinel : Option String) (field : String)
    (operator : Operator) (hrelational : operator.isRelational = true) (literals : List Literal) :
    (∀ k, SoleInteger multiplier literals k →
      ∀ (v : Int64) (d : Document), d.Holds field (sortable v) →
        (((numbers multiplier sentinel).outcome field operator
            (.single literals)).toQuery.matchedBy d = true ↔
          operator.Relates v.toInt k.toInt ∧ sentinel ≠ some (sortable v))) ∧
      ((¬∃ k, SoleInteger multiplier literals k) →
        (numbers multiplier sentinel).outcome field operator (.single literals) = .nothing) ∧
      ∀ (l : Literal) (v : Int64) (d : Document), d.Holds field (sortable v) →
        (l = .empty → d.term ⟨"nonemptyfieldids", field⟩ = true) →
        let finds (o : Outcome) := o.toQuery.matchedBy d = true
        let equal : Membership := ⟨(Value.Encoding.measure (.number multiplier true)).words, none⟩
        finds (equal.outcome field .equals (.single [l])) ↔
          finds ((numbers multiplier none).outcome field .lessOrEqual (.single [l])) ∧
            finds ((numbers multiplier none).outcome field .greaterOrEqual (.single [l])) := by
  refine ⟨?_, ?_, ?_⟩
  · intro k hsole v d hd
    exact numbers_outcome_matchedBy hrelational
      (Value.filterMap_readScaled?_eq_singleton_iff.mpr hsole) hd
  · intro hnone
    apply numbers_outcome_eq_nothing hrelational
    intro k hk
    exact hnone ⟨k, Value.filterMap_readScaled?_eq_singleton_iff.mp hk⟩
  · intro l v d hd hpresent finds equal
    refine (numbers_equals_matchedBy hd hpresent).trans ?_
    cases hread : readScaled? multiplier l with
    | none =>
        have hnothing (operator : Operator) (hrelational : operator.isRelational = true) :
            (numbers multiplier none).outcome field operator (.single [l]) = .nothing :=
          numbers_outcome_eq_nothing hrelational (by simp [hread])
        simp only [finds, hnothing .lessOrEqual rfl, hnothing .greaterOrEqual rfl]
        simp [Outcome.nothing, Outcome.toQuery, Query.nothing, Query.boolean_matchedBy]
    | some k =>
        have hsole : [l].filterMap (readScaled? multiplier) = [k] := by simp [hread]
        have hfound (operator : Operator) (hrelational : operator.isRelational = true) :
            finds ((numbers multiplier none).outcome field operator (.single [l])) ↔
              operator.Relates v.toInt k.toInt :=
          (numbers_outcome_matchedBy hrelational hsole hd).trans
            (and_iff_left (Option.some_ne_none _).symm)
        rw [hfound .lessOrEqual rfl, hfound .greaterOrEqual rfl, Option.some.injEq, eq_comm,
          ← Int64.toInt_inj]
        exact le_antisymm_iff

/-- Of the literals, the marker gives nothing, the last one leaves the 64-bit range and only
the text in the middle is an integer: 2 hours are 120 minutes. The smallest integer of all
is below it and is found, but not the sentinel; given twice, the literals find nothing; and
120 is neither below nor above 2. -/
theorem numbers_compare_as_integers_with_sentinel :
    let literals : List Literal := [.empty, .text " +2 ", .text "2h", .number 9223372036854775807]
    let found :=
      ((numbers 60 (some (sortable (-1)))).outcome "votes" .less (.single literals)).toQuery
    let compared operator :=
      ((numbers 60 none).outcome "votes" operator (.single [.number 2])).toQuery
    let holding (v : Int64) := Document.ofWord "votes" (sortable v)
    (SoleInteger 60 literals 120 ∧
        (holding Int64.minValue).Holds "votes" (sortable Int64.minValue) ∧
        found.matchedBy (holding Int64.minValue) = true ∧ ¬found.matchedBy (holding (-1)) = true) ∧
      ((¬∃ k, SoleInteger 60 (literals ++ literals) k) ∧
        (numbers 60 none).outcome "votes" .less (.single (literals ++ literals)) = .nothing) ∧
      (compared .lessOrEqual).matchedBy (holding 120) = true ∧
        (compared .greaterOrEqual).matchedBy (holding 120) = true := by
  intro literals found compared holding
  have hheld (v : Int64) : (holding v).Holds "votes" (sortable v) := Document.ofWord_holds ..
  have hsole : SoleInteger 60 literals 120 :=
    Value.filterMap_readScaled?_eq_singleton_iff.mp (by decide +kernel)
  have htwice : ¬∃ k, SoleInteger 60 (literals ++ literals) k := by
    rintro ⟨k, hk⟩
    have htwo : (literals ++ literals).filterMap (readScaled? 60) = [120, 120] := by decide +kernel
    simpa [htwo] using Value.filterMap_readScaled?_eq_singleton_iff.mpr hk
  have hless := (numbers_compare_as_integers 60 (some (sortable (-1))) "votes" .less rfl literals).1
  obtain ⟨-, hnothing, hequal⟩ :=
    numbers_compare_as_integers 60 none "votes" .less rfl (literals ++ literals)
  refine ⟨⟨hsole, hheld _, (hless 120 hsole _ _ (hheld _)).mpr ?_, ?_⟩, ⟨htwice, hnothing htwice⟩,
    (hequal (.number 2) 120 _ (hheld _) nofun).mp ?_⟩
  · exact ⟨show Int64.minValue.toInt < (120 : Int64).toInt by decide, by decide +kernel⟩
  · exact (hless 120 hsole (-1) _ (hheld _)).not.mpr fun h => h.2 rfl
  · have hread : readScaled? 60 (.number 2) = some 120 := by decide +kernel
    exact (numbers_equals_matchedBy (hheld 120) (by simp)).mpr hread

end Rule.Comparison

end FilterCompiler
