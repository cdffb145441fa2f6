import FilterCompiler.Proofs.Calendar
import FilterCompiler.Proofs.Digits
import FilterCompiler.Value.Encoding

/-!
Dates in the index. A minute is written as its parts from the year down to the minute, and in years
of four figures texts stand in the order of time, so that comparisons by ranges compare days and
minutes. Other years are written with a sign. Their texts still tell all minutes apart, but they
come before those of the years of four figures, and in no order of time.
-/

namespace FilterCompiler

namespace Value

namespace Date

theorem writeYear_of_mem {year : Int} (hyear : year ∈ Set.Icc 0 9999) :
    writeYear year = Text.padded 10 4 year.toNat := by
  rw [writeYear, if_pos (by simpa using hyear)]

theorem writeYear_of_neg {year : Int} (hyear : year < 0) :
    writeYear year = '-' :: Text.padded 10 4 year.natAbs := by
  rw [writeYear, if_neg (by grind), if_pos hyear]

theorem writeYear_of_gt {year : Int} (hyear : 9999 < year) :
    writeYear year = '+' :: Text.padded 10 4 year.natAbs := by
  rw [writeYear, if_neg (by grind), if_neg (by omega)]

/-- Where there is no sign, there is a figure first. -/
theorem exists_writeYear_eq_cons {year : Int} (hyear : year ∈ Set.Icc 0 9999) :
    ∃ c rest, writeYear year = c :: rest ∧ '0' ≤ c := by
  have hsome : Text.padded 10 4 year.toNat ≠ [] := by simp [Text.padded]
  obtain ⟨c, rest, hcons⟩ := List.exists_cons_of_ne_nil hsome
  have hdigit : c.isDigit = true := Text.isDigit_of_mem_padded (hcons ▸ List.mem_cons_self)
  exact ⟨c, rest, (writeYear_of_mem hyear).trans hcons,
    of_decide_eq_true (Bool.and_eq_true_iff.mp hdigit).1⟩

/-- Years with a minus sign come before those without a sign, and years with a plus sign before all
others, whatever follows. -/
theorem writeYear_append_lt {a b : Int}
    (hyears : a < 0 ∧ b ∈ Set.Icc 0 9999 ∨ 9999 < a ∧ b ≤ 9999) (cs ds : List Char) :
    writeYear a ++ cs < writeYear b ++ ds := by
  rcases hyears with ⟨ha, hb⟩ | ⟨ha, hb⟩
  · obtain ⟨c, rest, hcons, hzero⟩ := exists_writeYear_eq_cons hb
    rw [writeYear_of_neg ha, hcons]
    exact List.cons_lt_cons_iff.mpr (.inl (lt_of_lt_of_le (by decide) hzero))
  · rw [writeYear_of_gt ha]
    by_cases hsign : b < 0
    · rw [writeYear_of_neg hsign]
      exact List.cons_lt_cons_iff.mpr (.inl (by decide))
    · obtain ⟨c, rest, hcons, hzero⟩ := exists_writeYear_eq_cons ⟨not_lt.mp hsign, hb⟩
      rw [hcons]
      exact List.cons_lt_cons_iff.mpr (.inl (lt_of_lt_of_le (by decide) hzero))

theorem writeYear_injective : Function.Injective writeYear := by
  intro a b h
  have hsign {a b : Int} (h : writeYear a = writeYear b) :
      ¬(a < 0 ∧ b ∈ Set.Icc 0 9999 ∨ 9999 < a ∧ b ≤ 9999) := by
    intro hyears
    have hless := writeYear_append_lt hyears [] []
    rw [h] at hless
    exact lt_irrefl _ hless
  have hforward := hsign h
  have hbackward := hsign h.symm
  rw [Set.mem_Icc] at hforward hbackward
  by_cases hneg : a < 0
  · rw [writeYear_of_neg hneg, writeYear_of_neg (show b < 0 by omega)] at h
    have habs := Text.padded_ten_injective 4 (List.cons.inj h).2
    omega
  · by_cases hgt : 9999 < a
    · rw [writeYear_of_gt hgt, writeYear_of_gt (show 9999 < b by omega)] at h
      have habs := Text.padded_ten_injective 4 (List.cons.inj h).2
      omega
    · have ha : a ∈ Set.Icc 0 9999 := ⟨by omega, by omega⟩
      have hb : b ∈ Set.Icc 0 9999 := ⟨by omega, by omega⟩
      rw [writeYear_of_mem ha, writeYear_of_mem hb] at h
      have habs := Text.padded_ten_injective 4 h
      omega

end Date

namespace Minute

/-- What is written after the year. -/
def parts (m : Minute) : List Nat := [m.date.month, m.date.day, m.hour, m.minute]

theorem lt_iff_parts {a b : Minute} :
    a < b ↔ a.date.year < b.date.year ∨ a.date.year = b.date.year ∧ a.parts < b.parts := by
  obtain ⟨⟨year, month, day⟩, hour, minute⟩ := a
  obtain ⟨⟨year', month', day'⟩, hour', minute'⟩ := b
  simp only [lt_iff, Date.lt_iff, parts, List.cons_lt_cons_iff, Date.mk.injEq, lt_self_iff_false]
  tauto

theorem write_toList (m : Minute) :
    m.write.toList = Date.writeYear m.date.year ++ m.parts.flatMap (Text.padded 10 2) := by
  simp [write, Date.write, parts]

theorem year_le_of_le {a b : Minute} (h : a ≤ b) : a.date.year ≤ b.date.year := by
  rcases h.lt_or_eq with hless | rfl
  · rcases lt_iff_parts.mp hless with hyear | ⟨hyear, -⟩
    · exact hyear.le
    · exact hyear.le
  · exact le_rfl

/-- Minutes of years with different signs are compared by the signs alone. -/
theorem write_lt_write_of_sign {a b : Minute}
    (hyears : a.date.year < 0 ∧ b.date.year ∈ Set.Icc 0 9999 ∨
      9999 < a.date.year ∧ b.date.year ≤ 9999) : a.write < b.write := by
  rw [String.lt_iff_toList_lt, write_toList, write_toList]
  exact Date.writeYear_append_lt hyears _ _

theorem Proper.parts_mem {m : Minute} (hm : m.Proper) :
    m.parts ∈ {ns : List Nat | ns.length = 4 ∧ ∀ n ∈ ns, n < 10 ^ 2} := by
  obtain ⟨hmonth, hday, hhour, hminute⟩ := hm
  refine ⟨rfl, ?_⟩
  simp only [parts, List.forall_mem_cons]
  exact ⟨by omega, by omega, by omega, by omega, nofun⟩

/-- Figures after the year are compared part by part. -/
theorem figures_strictMonoOn :
    StrictMonoOn (fun ns : List Nat => ns.flatMap (Text.padded 10 2))
      {ns | ns.length = 4 ∧ ∀ n ∈ ns, n < 10 ^ 2} :=
  Text.flatMap_padded_strictMonoOn (by decide) (by decide) (by decide) 4

section Written

variable {a b : Minute} (ha : a.Proper) (hb : b.Proper)

include ha hb

/-- Every minute has a text of its own. -/
theorem Proper.write_inj : a.write = b.write ↔ a = b := by
  refine ⟨fun h => ?_, congrArg write⟩
  have hlength : (a.parts.flatMap (Text.padded 10 2)).length =
      (b.parts.flatMap (Text.padded 10 2)).length := by
    rw [Text.flatMap_padded_length (by decide) (by decide) ha.parts_mem.2,
      Text.flatMap_padded_length (by decide) (by decide) hb.parts_mem.2]
    rfl
  rw [← String.toList_inj, write_toList, write_toList] at h
  obtain ⟨hyear, hparts⟩ := List.append_inj' h hlength
  have hyear := Date.writeYear_injective hyear
  have hparts := figures_strictMonoOn.injOn ha.parts_mem hb.parts_mem hparts
  obtain ⟨⟨year, month, day⟩, hour, minute⟩ := a
  obtain ⟨⟨year', month', day'⟩, hour', minute'⟩ := b
  simp_all [parts]

/-- Minutes of years that take the same space are compared by the texts of the years first. -/
theorem Proper.write_lt_write_iff
    (hlength : (Date.writeYear a.date.year).length = (Date.writeYear b.date.year).length) :
    a.write < b.write ↔
      Date.writeYear a.date.year < Date.writeYear b.date.year ∨
        a.date.year = b.date.year ∧ a.parts < b.parts := by
  have hparts := figures_strictMonoOn.lt_iff_lt ha.parts_mem hb.parts_mem
  rw [String.lt_iff_toList_lt, write_toList, write_toList, Text.append_lt_append_iff hlength,
    Date.writeYear_injective.eq_iff, hparts]

/-- Before the year zero later years come first, as far as four figures suffice. -/
theorem Proper.write_lt_write_of_neg (hfirst : -9999 ≤ a.date.year)
    (hless : a.date.year < b.date.year) (hlast : b.date.year < 0) : b.write < a.write := by
  have hafits : a.date.year.natAbs < 10 ^ 4 := by omega
  have hbfits : b.date.year.natAbs < 10 ^ 4 := by omega
  have hayear := Date.writeYear_of_neg (hless.trans hlast)
  have hbyear := Date.writeYear_of_neg hlast
  have hlength : (Date.writeYear b.date.year).length = (Date.writeYear a.date.year).length := by
    rw [hayear, hbyear, List.length_cons, List.length_cons,
      Text.padded_length (by decide) (by decide) hafits,
      Text.padded_length (by decide) (by decide) hbfits]
  rw [hb.write_lt_write_iff ha hlength, hayear, hbyear]
  refine .inl (List.cons_lt_cons_iff.mpr (.inr ⟨rfl, ?_⟩))
  exact Text.padded_strictMonoOn (by decide) (by decide) (by decide) hbfits hafits (by omega)

end Written

/-- In years of four figures, texts stand in the order of time. -/
theorem write_strictMonoOn :
    StrictMonoOn write {m | m.Proper ∧ m.date.year ∈ Set.Icc 0 9999} := by
  rintro a ⟨ha, hayear⟩ b ⟨hb, hbyear⟩ hless
  have hfits {year : Int} (hyear : year ∈ Set.Icc 0 9999) : year.toNat < 10 ^ 4 := by
    rw [Set.mem_Icc] at hyear
    omega
  have hlength {year : Int} (hyear : year ∈ Set.Icc 0 9999) : (Date.writeYear year).length = 4 := by
    rw [Date.writeYear_of_mem hyear]
    exact Text.padded_length (by decide) (by decide) (hfits hyear)
  rw [ha.write_lt_write_iff hb ((hlength hayear).trans (hlength hbyear).symm)]
  rcases lt_iff_parts.mp hless with hyear | hyear
  · rw [Date.writeYear_of_mem hayear, Date.writeYear_of_mem hbyear]
    refine .inl (Text.padded_strictMonoOn (by decide) (by decide) (by decide) (hfits hayear)
      (hfits hbyear) ?_)
    rw [Set.mem_Icc] at hayear
    omega
  · exact .inr hyear

end Minute

/-- Timestamps have the same word just when they fall in the same minute. Words stand in
the order of time as long as the later timestamp is of a year of four figures. The words
of later years come before all others, and before the year zero the words of later years
come before those of earlier ones. -/
theorem timestamps_sort_up_to_year_9999 (now : Option Int) (a b : Int64) (hle : a.toInt ≤ b.toInt)
    (s t : Minute) (hs : Minute.ofMillis? a.toInt = some s)
    (ht : Minute.ofMillis? b.toInt = some t) :
    (Measure.date now).word? (.number a) = some s.write ∧
      (Measure.date now).word? (.number b) = some t.write ∧
      (s.write = t.write ↔ a.toInt / 60000 = b.toInt / 60000) ∧
      (t.date.year ∈ Set.Icc 0 9999 → s.write ≤ t.write) ∧
      (s.date.year ≤ 9999 → 9999 < t.date.year → t.write < s.write) ∧
      (-9999 ≤ s.date.year → s.date.year < t.date.year → t.date.year < 0 → t.write < s.write) := by
  have hword (n : Int64) (m : Minute) (hm : Minute.ofMillis? n.toInt = some m) :
      (Measure.date now).word? (.number n) = some m.write := by
    simp [Measure.word?, Measure.bounds?, readMoment?, hm, Moment.first]
  refine ⟨hword a s hs, hword b t ht, ?_⟩
  obtain ⟨rfl, -⟩ := Minute.ofMillis?_eq_some_iff.mp hs
  obtain ⟨rfl, -⟩ := Minute.ofMillis?_eq_some_iff.mp ht
  have hproper (n : Int64) : (Minute.ofMinutes (n.toInt / 60000)).Proper :=
    Minute.ofMinutes_proper _
  have hinOrder : Minute.ofMinutes (a.toInt / 60000) ≤ Minute.ofMinutes (b.toInt / 60000) :=
    Minute.ofMinutes_strictMono.monotone (Int.ediv_le_ediv (by decide) hle)
  refine ⟨?_, ?_, ?_, ?_⟩
  · rw [(hproper a).write_inj (hproper b), Minute.ofMinutes_strictMono.injective.eq_iff]
  · intro hyear
    by_cases hsign : (Minute.ofMinutes (a.toInt / 60000)).date.year < 0
    · exact (Minute.write_lt_write_of_sign (.inl ⟨hsign, hyear⟩)).le
    · have hearlier : (Minute.ofMinutes (a.toInt / 60000)).date.year ∈ Set.Icc 0 9999 :=
        ⟨not_lt.mp hsign, (Minute.year_le_of_le hinOrder).trans hyear.2⟩
      exact Minute.write_strictMonoOn.monotoneOn ⟨hproper a, hearlier⟩ ⟨hproper b, hyear⟩ hinOrder
  · intro hearlier hlater
    exact Minute.write_lt_write_of_sign (.inr ⟨hlater, hearlier⟩)
  · intro hfirst hless hlast
    exact (hproper a).write_lt_write_of_neg (hproper b) hfirst hless hlast

/-- The last minute of the year 9999 and the first one after it. -/
theorem timestamps_sort_up_to_year_9999_and_no_further :
    let a : Int64 := 253402300799999
    let b : Int64 := 253402300800000
    let s : Minute := ⟨⟨9999, 12, 31⟩, 23, 59⟩
    let t : Minute := ⟨⟨10000, 1, 1⟩, 0, 0⟩
    a.toInt ≤ b.toInt ∧ Minute.ofMillis? a.toInt = some s ∧ Minute.ofMillis? b.toInt = some t ∧
      s.date.year ≤ 9999 ∧ 9999 < t.date.year ∧ t.write < s.write := by
  intro a b s t
  have hle : a.toInt ≤ b.toInt := by decide
  have hs : Minute.ofMillis? a.toInt = some s := by decide +kernel
  have ht : Minute.ofMillis? b.toInt = some t := by decide +kernel
  obtain ⟨-, -, -, -, hlater, -⟩ := timestamps_sort_up_to_year_9999 none a b hle s t hs ht
  exact ⟨hle, hs, ht, by decide, by decide, hlater (by decide) (by decide)⟩

theorem not_timestamps_sort :
    let a : Int64 := 253402300799999
    let b : Int64 := 253402300800000
    a.toInt ≤ b.toInt ∧
      (Measure.date none).word? (.number a) = some "999912312359" ∧
      (Measure.date none).word? (.number b) = some "+1000001010000" ∧
      ¬"999912312359" ≤ "+1000001010000" := by
  decide +kernel

end Value

end FilterCompiler
