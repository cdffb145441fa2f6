import Mathlib
import FilterCompiler.Value.Calendar

/-!
The order of dates and minutes. A calendar names days by year, month and day, and its names stand
in the order of the days: to count days or minutes and to compare the parts of what they are
called is the same. This holds without bounds in both directions, across the ends of months and
years and the rules for leap years.
-/

namespace FilterCompiler.Value

namespace Date

/-- Dates are compared by their years, then by months, then by days. -/
def key (d : Date) : Int ×ₗ Nat ×ₗ Nat := toLex (d.year, toLex (d.month, d.day))

theorem key_injective : Function.Injective key := by
  rintro ⟨year, month, day⟩ ⟨year', month', day'⟩ h
  cases h
  rfl

instance : LinearOrder Date := LinearOrder.lift' key key_injective

theorem lt_iff {a b : Date} :
    a < b ↔ a.year < b.year ∨ a.year = b.year ∧
      (a.month < b.month ∨ a.month = b.month ∧ a.day < b.day) := by
  refine (Prod.Lex.toLex_lt_toLex (x := (a.year, _)) (y := (b.year, _))).trans ?_
  exact or_congr_right (and_congr_right fun _ => Prod.Lex.toLex_lt_toLex)

end Date

namespace Minute

/-- Minutes are compared by their dates, then by hours, then by minutes. -/
def key (m : Minute) : Date ×ₗ Nat ×ₗ Nat := toLex (m.date, toLex (m.hour, m.minute))

theorem key_injective : Function.Injective key := by
  rintro ⟨date, hour, minute⟩ ⟨date', hour', minute'⟩ h
  cases h
  rfl

instance : LinearOrder Minute := LinearOrder.lift' key key_injective

theorem lt_iff {a b : Minute} :
    a < b ↔ a.date < b.date ∨ a.date = b.date ∧
      (a.hour < b.hour ∨ a.hour = b.hour ∧ a.minute < b.minute) := by
  refine (Prod.Lex.toLex_lt_toLex (x := (a.date, _)) (y := (b.date, _))).trans ?_
  exact or_congr_right (and_congr_right fun _ => Prod.Lex.toLex_lt_toLex)

end Minute

theorem isLeapYear_iff {year : Int} :
    isLeapYear year = true ↔ year % 4 = 0 ∧ (year % 100 ≠ 0 ∨ year % 400 = 0) := by
  simp [isLeapYear]

/-- The days of a year are those of its months. -/
theorem daysBefore_succ (year : Int) :
    daysBefore (year + 1) = daysBefore year + (monthLengths year).sum := by
  by_cases hleap : isLeapYear year = true
  · have hsum : (monthLengths year).sum = 366 := by simp [monthLengths, hleap]
    rw [isLeapYear_iff] at hleap
    unfold daysBefore
    omega
  · have hsum : (monthLengths year).sum = 365 := by simp [monthLengths, hleap]
    rw [isLeapYear_iff] at hleap
    unfold daysBefore
    omega

theorem monthLengths_le (year : Int) : ∀ length ∈ monthLengths year, length ≤ 31 := by
  cases hleap : isLeapYear year <;> simp [monthLengths, hleap]

theorem le_monthLengths (year : Int) : ∀ length ∈ monthLengths year, 28 ≤ length := by
  cases hleap : isLeapYear year <;> simp [monthLengths, hleap]

theorem daysBefore_strictMono : StrictMono daysBefore := by
  intro a b h
  unfold daysBefore
  omega

/-- The year of a day is the one that has begun by that day and whose successor has not. -/
theorem yearOf_bounds (days : Int) :
    daysBefore (yearOf days) ≤ days ∧ days < daysBefore (yearOf days + 1) := by
  have hguess : daysBefore (400 * days / 146097 - 1) ≤ days ∧
      days < daysBefore (400 * days / 146097 + 1 + 1) := by
    unfold daysBefore
    omega
  unfold yearOf
  dsimp only
  split
  · exact ⟨by assumption, hguess.2⟩
  · split
    · rw [Int.sub_add_cancel]
      exact ⟨hguess.1, by assumption⟩
    · exact ⟨not_lt.mp (by assumption), not_le.mp (by assumption)⟩

theorem yearOf_mono {a b : Int} (h : a ≤ b) : yearOf a ≤ yearOf b := by
  by_contra hlater
  have hnext : daysBefore (yearOf b + 1) ≤ daysBefore (yearOf a) :=
    daysBefore_strictMono.monotone (by omega)
  have ha := yearOf_bounds a
  have hb := yearOf_bounds b
  omega

theorem le_splitMonths (month : Nat) (lengths : List Nat) (days : Nat) :
    month ≤ (splitMonths month lengths days).1 := by
  induction lengths generalizing month days with
  | nil => exact Nat.le_refl month
  | cons length lengths ih =>
      unfold splitMonths
      split
      · exact Nat.le_refl month
      · exact (Nat.le_succ month).trans (ih _ _)

/-- A later day falls in a later month, or on a later day of the same one. -/
theorem splitMonths_strictMono (month : Nat) (lengths : List Nat) {a b : Nat} (h : a < b) :
    toLex (splitMonths month lengths a) < toLex (splitMonths month lengths b) := by
  rw [Prod.Lex.toLex_lt_toLex]
  induction lengths generalizing month a b with
  | nil => exact .inr ⟨rfl, Nat.succ_lt_succ h⟩
  | cons length lengths ih =>
      by_cases hb : b < length
      · have ha : a < length := h.trans hb
        rw [splitMonths, if_pos ha, splitMonths, if_pos hb]
        exact .inr ⟨rfl, Nat.succ_lt_succ h⟩
      · by_cases ha : a < length
        · rw [splitMonths, if_pos ha, splitMonths, if_neg hb]
          exact .inl (le_splitMonths (month + 1) lengths (b - length))
        · rw [splitMonths, if_neg ha, splitMonths, if_neg hb]
          exact ih (month + 1) (by omega)

/-- A day of the year falls in one of its months, and not after the end of the longest one. -/
theorem splitMonths_le (month : Nat) {lengths : List Nat} {longest days : Nat}
    (hlengths : ∀ length ∈ lengths, length ≤ longest) (hdays : days < lengths.sum) :
    (splitMonths month lengths days).1 < month + lengths.length ∧
      (splitMonths month lengths days).2 ≤ longest := by
  induction lengths generalizing month days with
  | nil => cases hdays
  | cons length lengths ih =>
      obtain ⟨hlength, hrest⟩ := List.forall_mem_cons.mp hlengths
      rw [List.sum_cons] at hdays
      by_cases hin : days < length
      · rw [splitMonths, if_pos hin]
        simp only [List.length_cons]
        omega
      · rw [splitMonths, if_neg hin]
        have hremaining : days - length < lengths.sum := by omega
        obtain ⟨hmonth, hday⟩ := ih (month + 1) hrest hremaining
        refine ⟨?_, hday⟩
        simp only [List.length_cons]
        omega

namespace Date

/-- Counting days keeps the order of dates. -/
theorem ofDays_strictMono : StrictMono ofDays := by
  intro a b h
  rw [lt_iff]
  rcases (yearOf_mono h.le).lt_or_eq with hyear | hyear
  · exact .inl hyear
  · refine .inr ⟨hyear, ?_⟩
    have ha := yearOf_bounds a
    have hsplit := splitMonths_strictMono 1 (monthLengths (yearOf b))
      (show (a - daysBefore (yearOf b)).toNat < (b - daysBefore (yearOf b)).toNat by
        rw [← hyear]
        omega)
    rw [Prod.Lex.toLex_lt_toLex] at hsplit
    unfold ofDays
    rw [hyear]
    exact hsplit

/-- Every day has a month of the year and a day of that month for its name. -/
theorem ofDays_le (days : Int) : (ofDays days).month ≤ 12 ∧ (ofDays days).day ≤ 31 := by
  have hbounds := yearOf_bounds days
  rw [daysBefore_succ] at hbounds
  have hday : (days - daysBefore (yearOf days)).toNat < (monthLengths (yearOf days)).sum := by omega
  obtain ⟨hmonth, hday⟩ := splitMonths_le 1 (monthLengths_le (yearOf days)) hday
  exact ⟨Nat.le_of_lt_succ hmonth, hday⟩

end Date

namespace Minute

/-- The minute that is so many minutes after the start of 1970, in any year. -/
def ofMinutes (minutes : Int) : Minute :=
  ⟨.ofDays (minutes / 1440 + epoch), (minutes % 1440).toNat / 60, (minutes % 1440).toNat % 60⟩

theorem ofMillis?_eq_some_iff {millis : Int} {m : Minute} :
    ofMillis? millis = some m ↔
      m = ofMinutes (millis / 60000) ∧ firstYear ≤ m.date.year ∧ m.date.year ≤ lastYear := by
  simp only [ofMillis?, ofMinutes, Bool.and_eq_true, decide_eq_true_eq,
    Option.ite_none_right_eq_some, Option.some.injEq]
  constructor
  · rintro ⟨hyear, rfl⟩
    exact ⟨rfl, hyear⟩
  · rintro ⟨rfl, hyear⟩
    exact ⟨hyear, rfl⟩

theorem ofMinutes_strictMono : StrictMono ofMinutes := by
  intro a b h
  rw [lt_iff]
  rcases (Int.ediv_le_ediv (by decide) h.le : a / 1440 ≤ b / 1440).lt_or_eq with hday | hday
  · exact .inl (Date.ofDays_strictMono (by omega))
  · refine .inr ⟨congrArg (fun days => Date.ofDays (days + epoch)) hday, ?_⟩
    unfold ofMinutes
    dsimp only
    omega

/-- Before a day comes what has an earlier date. -/
theorem lt_first_iff {m : Minute} {d : Date} : m < first d ↔ m.date < d := by
  simp [lt_iff, first]

/-- A minute by parts that a calendar and a clock can show. -/
structure Proper (m : Minute) : Prop where
  month_le : m.date.month ≤ 12
  day_le : m.date.day ≤ 31
  hour_lt : m.hour < 24
  minute_lt : m.minute < 60

/-- After a day comes what has a later date: no minute of the day is later than its last one. -/
theorem Proper.last_lt_iff {m : Minute} (hm : m.Proper) {d : Date} : last d < m ↔ d < m.date := by
  have hhour := hm.hour_lt
  have hminute := hm.minute_lt
  rw [lt_iff, last]
  constructor
  · rintro (hdate | ⟨-, hclock⟩)
    · exact hdate
    · dsimp only at hclock
      omega
  · exact .inl

theorem ofMinutes_proper (minutes : Int) : (ofMinutes minutes).Proper := by
  obtain ⟨hmonth, hday⟩ := Date.ofDays_le (minutes / 1440 + epoch)
  refine ⟨hmonth, hday, ?_, Nat.mod_lt _ (by decide)⟩
  unfold ofMinutes
  dsimp only
  omega

end Minute

end FilterCompiler.Value
