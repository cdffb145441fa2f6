import FilterCompiler.Proofs.Chronology
import FilterCompiler.Proofs.Comparison

/-!
Comparison with days and minutes. A text that names a day stands for all its minutes, from the first
to the last, and each operator picks the end of the day that makes it compare dates; a text that
names a minute is compared with by the minute.
-/

namespace FilterCompiler

namespace Value

theorem Date.le_of_isValid {d : Date} (hvalid : d.isValid = true) : d.month ≤ 12 ∧ d.day ≤ 31 := by
  have hlength : (monthLengths d.year).getD (d.month - 1) 0 ≤ 31 := by
    rw [List.getD_eq_getElem?_getD]
    cases hmonth : (monthLengths d.year)[d.month - 1]? with
    | none => exact Nat.zero_le 31
    | some length => exact monthLengths_le d.year length (List.mem_of_getElem? hmonth)
  simp only [isValid, Bool.and_eq_true, decide_eq_true_eq] at hvalid
  omega

theorem readDate?_le {cs : List Char} {d : Date} (h : readDate? cs = some d) :
    d.month ≤ 12 ∧ d.day ≤ 31 := by
  obtain ⟨mark, -, h⟩ := Option.bind_eq_some_iff.mp h
  obtain ⟨order, -, h⟩ := List.exists_of_findSome?_eq_some h
  exact Date.le_of_isValid (Option.filter_eq_some_iff.mp h).2

theorem readTime?_lt {cs : List Char} {hour minute : Nat} (h : readTime? cs = some (hour, minute)) :
    hour < 24 ∧ minute < 60 := by
  obtain ⟨⟨hour', cs'⟩, -, h⟩ := Option.bind_eq_some_iff.mp h
  obtain ⟨cs'', -, h⟩ := Option.bind_eq_some_iff.mp h
  obtain ⟨⟨minute', rest⟩, -, h⟩ := Option.bind_eq_some_iff.mp h
  simp only [Option.ite_none_right_eq_some, Bool.and_eq_true, decide_eq_true_eq, Option.some.injEq,
    Prod.mk.injEq] at h
  omega

/-- Whatever a text is read as, a calendar and a clock can show it. -/
theorem Moment.read?_proper {now : Option Int} {cs : List Char} {moment : Moment}
    (h : read? now cs = some moment) : moment.first.Proper ∧ moment.last.Proper := by
  unfold read? at h
  dsimp only at h
  split at h
  · obtain ⟨m, hm, rfl⟩ := Option.map_eq_some_iff.mp h
    obtain ⟨seconds, -, hm⟩ := Option.bind_eq_some_iff.mp hm
    obtain ⟨present, -, hm⟩ := Option.bind_eq_some_iff.mp hm
    obtain ⟨rfl, -⟩ := Minute.ofMillis?_eq_some_iff.mp hm
    exact ⟨Minute.ofMinutes_proper _, Minute.ofMinutes_proper _⟩
  · split at h
    · obtain ⟨d, hd, rfl⟩ := Option.map_eq_some_iff.mp h
      obtain ⟨hmonth, hday⟩ := readDate?_le hd
      exact ⟨⟨hmonth, hday, Nat.zero_lt_succ 23, Nat.zero_lt_succ 59⟩,
        ⟨hmonth, hday, Nat.lt_succ_self 23, Nat.lt_succ_self 59⟩⟩
    · obtain ⟨d, hd, h⟩ := Option.bind_eq_some_iff.mp h
      obtain ⟨⟨hour, minute⟩, htime, h⟩ := Option.bind_eq_some_iff.mp h
      obtain rfl := Option.some.inj h
      obtain ⟨hmonth, hday⟩ := readDate?_le hd
      obtain ⟨hhour, hminute⟩ := readTime?_lt htime
      exact ⟨⟨hmonth, hday, hhour, hminute⟩, ⟨hmonth, hday, hhour, hminute⟩⟩

theorem readMoment?_proper {now : Option Int} {l : Literal} {moment : Moment}
    (h : readMoment? now l = some moment) : moment.first.Proper ∧ moment.last.Proper := by
  cases l with
  | number n =>
      obtain ⟨m, hm, rfl⟩ := Option.map_eq_some_iff.mp h
      obtain ⟨rfl, -⟩ := Minute.ofMillis?_eq_some_iff.mp hm
      exact ⟨Minute.ofMinutes_proper _, Minute.ofMinutes_proper _⟩
  | text s => exact Moment.read?_proper h
  | empty => cases h

/-- What an operator says about a minute and a moment: with a day it compares the date alone. -/
def Moment.Relates (operator : Operator) (m : Minute) : Moment → Prop
  | .day date => operator.Relates m.date date
  | .minute other => operator.Relates m other

/-- Compared with the right end of a moment, a minute is compared with the moment. -/
theorem Moment.relates_decisiveEnd_iff {operator : Operator} {m : Minute} (hm : m.Proper)
    (moment : Moment) :
    operator.Relates m (operator.decisiveEnd moment.first moment.last) ↔
      moment.Relates operator m := by
  cases moment with
  | minute other =>
      have hend :
          operator.decisiveEnd (Moment.minute other).first (Moment.minute other).last = other :=
        operator.decisiveEnd_self other
      rw [hend]
      rfl
  | day date =>
      have hfirst : m < Minute.first date ↔ m.date < date := Minute.lt_first_iff
      have hlast : Minute.last date < m ↔ date < m.date := hm.last_lt_iff
      cases operator with
      | less => exact hfirst
      | greater => exact hlast
      | lessOrEqual =>
          change m ≤ Minute.last date ↔ m.date ≤ date
          rw [← not_lt, hlast, not_lt]
      | greaterOrEqual =>
          change Minute.first date ≤ m ↔ date ≤ m.date
          rw [← not_lt, hfirst, not_lt]
      | _ => exact Iff.rfl

end Value

namespace Rule.Comparison

open Value

/-- A literal that is read as a day or a minute gives a range with the words of the
minutes that compare with it as the operator says: their dates with the day, or the
minutes themselves with the minute. -/
theorem dates_compare_by_day_or_minute (now : Option Int) (sentinel : Option String)
    (emptyIsOpen : Bool) (field : String) (operator : Operator)
    (hrelational : operator.isRelational = true) (l : Literal) (moment : Moment)
    (hread : readMoment? now l = some moment)
    (hyear : moment.first.date.year ∈ Set.Icc 0 9999) (millis : Int) (t : Minute)
    (ht : Minute.ofMillis? millis = some t) (htyear : t.date.year ∈ Set.Icc 0 9999) :
    let dates : Comparison := ⟨.date now, sentinel, emptyIsOpen⟩
    (∃ range, dates.range? field operator l = some range ∧
        (range.contains t.write = true ↔ moment.Relates operator t)) ∧
      ∀ d : Document, d.Holds field t.write →
        ((dates.outcome field operator (.single [l])).toQuery.matchedBy d = true ↔
          moment.Relates operator t ∧ sentinel ≠ some t.write) := by
  intro dates
  obtain ⟨rfl, -⟩ := Minute.ofMillis?_eq_some_iff.mp ht
  obtain ⟨hfirst, hlast⟩ := readMoment?_proper hread
  have hproper := Minute.ofMinutes_proper (millis / 60000)
  have hlastYear : moment.last.date.year ∈ Set.Icc 0 9999 := by cases moment <;> exact hyear
  obtain ⟨range, hrange⟩ :=
    exists_ofBounds? hrelational field ⟨moment.first.write, moment.last.write⟩
  have hgiven : dates.range? field operator l = some range := by
    have hvalue : l.isEmpty = false := by
      cases l with
      | number n | text s => rfl
      | empty => cases hread
    simp [range?, hvalue, dates, Measure.bounds?, hread, hrange]
  have hcontains : range.contains (Minute.ofMinutes (millis / 60000)).write = true ↔
      moment.Relates operator (Minute.ofMinutes (millis / 60000)) :=
    (ofBounds?_contains Minute.write_strictMonoOn ⟨hfirst, hyear⟩ ⟨hlast, hlastYear⟩
      ⟨hproper, htyear⟩ hrange).trans (Moment.relates_decisiveEnd_iff hproper moment)
  refine ⟨⟨range, hgiven, hcontains⟩, ?_⟩
  intro d hd
  have hsole : [l].filterMap (dates.range? field operator) = [range] := by
    simp [hgiven]
  rw [outcome_matchedBy hrelational hsole hd, hcontains]

/-- The last millisecond of a leap day is on that day and not after it,
but after the minute before. -/
theorem dates_compare_by_day_or_minute_on_leap_day :
    let leapDay : Date := ⟨2024, 2, 29⟩
    let t : Minute := ⟨leapDay, 23, 59⟩
    let d := Document.ofWord "created" t.write
    let dates : Comparison := ⟨.date none, some "never", true⟩
    let found operator l := (dates.outcome "created" operator (.single [l])).toQuery
    readMoment? none (.text " 29/02/2024") = some (.day leapDay) ∧
      readMoment? none (.number 1709251139999) = some (.minute ⟨leapDay, 23, 58⟩) ∧
      Minute.ofMillis? 1709251199999 = some t ∧ leapDay.year ∈ Set.Icc 0 9999 ∧
      d.Holds "created" t.write ∧ (found .lessOrEqual (.text " 29/02/2024")).matchedBy d = true ∧
      ¬(found .greater (.text " 29/02/2024")).matchedBy d = true ∧
      (found .greater (.number 1709251139999)).matchedBy d = true := by
  intro leapDay t d dates found
  have hday : readMoment? none (.text " 29/02/2024") = some (.day leapDay) := by decide +kernel
  have hminute : readMoment? none (.number 1709251139999) = some (.minute ⟨leapDay, 23, 58⟩) := by
    decide +kernel
  have ht : Minute.ofMillis? 1709251199999 = some t := by decide +kernel
  have hyear : leapDay.year ∈ Set.Icc 0 9999 := by decide
  have hd : d.Holds "created" t.write := Document.ofWord_holds ..
  have hsentinel : some "never" ≠ some t.write := by decide +kernel
  have hfound (operator : Operator) (hrelational : operator.isRelational = true) {l : Literal}
      {moment : Moment} (hread : readMoment? none l = some moment)
      (hmoment : moment.first.date.year ∈ Set.Icc 0 9999) :=
    (dates_compare_by_day_or_minute none (some "never") true "created" operator hrelational l moment
      hread hmoment 1709251199999 t ht hyear).2 d hd
  refine ⟨hday, hminute, ht, hyear, hd, ?_, ?_, ?_⟩
  · exact (hfound .lessOrEqual rfl hday hyear).mpr ⟨le_refl leapDay, hsentinel⟩
  · exact fun hafter => lt_irrefl leapDay ((hfound .greater rfl hday hyear).mp hafter).1
  · have hlater : (⟨leapDay, 23, 58⟩ : Minute) < t := Minute.lt_iff.mpr (.inr ⟨rfl, by decide⟩)
    exact (hfound .greater rfl hminute hyear).mpr ⟨hlater, hsentinel⟩

end Rule.Comparison

end FilterCompiler
