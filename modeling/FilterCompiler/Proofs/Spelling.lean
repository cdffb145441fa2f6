import FilterCompiler.Proofs.Grammar
import FilterCompiler.Proofs.Moments
import FilterCompiler.Proofs.Naming

/-!
Spellings of dates. A date with all its zeros can be written with the year first or last and
with three marks, and most ways to do so are read as that date whatever its numbers are. Two
orders share the texts that end in the year, and for each mark one of them is tried first; a
date in the other order is read as such only when it makes no date in the first, which for days
up to the twelfth it always does.
-/

namespace FilterCompiler

namespace Text

theorem isBlank_of_isDigit {c : Char} (hc : c.isDigit = true) : isBlank c = false := by
  have hrange : 48 ≤ c.toNat ∧ c.toNat ≤ 57 := Char.isDigit_iff_toNat.mp hc
  simp only [isBlank, inRanges, blankRanges, List.any_cons, List.any_nil, Bool.or_false,
    Bool.or_eq_false_iff, Bool.and_eq_false_iff, decide_eq_false_iff_not]
  omega

theorem isAlpha_of_isDigit {c : Char} (hc : c.isDigit = true) : c.isAlpha = false := by
  have hnine : c.toNat ≤ 57 := (Char.isDigit_iff_toNat.mp hc).2
  simp only [Char.isAlpha, Char.isUpper, Char.isLower, Bool.or_eq_false_iff, Bool.and_eq_false_iff,
    decide_eq_false_iff_not, ge_iff_le, UInt32.le_iff_toNat_le]
  change ¬(65 ≤ c.toNat ∧ c.toNat ≤ 90) ∧ (¬97 ≤ c.toNat ∨ ¬c.toNat ≤ 122)
  omega

theorem any_eq_false_of_isDigit {found : Option Char} {p : Char → Bool}
    (hp : ∀ c, c.isDigit = true → p c = false) (hfound : found.any Char.isDigit = true) :
    found.any p = false := by
  cases found with
  | none => rfl
  | some c => exact hp c hfound

/-- The first and the last character are digits. -/
def HasDigitEnds (cs : List Char) : Prop :=
  cs.head?.any Char.isDigit = true ∧ cs.getLast?.any Char.isDigit = true

theorem padded_hasDigitEnds (width n : Nat) : HasDigitEnds (padded 10 width n) := by
  have hsome : padded 10 width n ≠ [] := by simp [padded]
  rw [HasDigitEnds, List.head?_eq_some_head hsome, List.getLast?_eq_some_getLast hsome,
    Option.any_some, Option.any_some]
  exact ⟨isDigit_of_mem_padded (List.head_mem hsome),
    isDigit_of_mem_padded (List.getLast_mem hsome)⟩

theorem HasDigitEnds.head?_append {cs : List Char} (h : HasDigitEnds cs) (rest : List Char) :
    (cs ++ rest).head?.any Char.isDigit = true := by
  cases cs with
  | nil => cases h.1
  | cons c cs => exact h.1

theorem HasDigitEnds.append {first last : List Char} (hfirst : HasDigitEnds first)
    (hlast : HasDigitEnds last) (between : List Char) :
    HasDigitEnds (first ++ between ++ last) := by
  constructor
  · rw [List.append_assoc]
    exact hfirst.head?_append _
  · rw [List.getLast?_append]
    cases hc : last.getLast? with
    | none => simp [HasDigitEnds, hc] at hlast
    | some c => simpa [HasDigitEnds, hc] using hlast.2

theorem HasDigitEnds.isTrimmed {cs : List Char} (h : HasDigitEnds cs) : IsTrimmed cs :=
  ⟨any_eq_false_of_isDigit (fun _ => isBlank_of_isDigit) h.1,
    any_eq_false_of_isDigit (fun _ => isBlank_of_isDigit) h.2⟩

end Text

namespace Value

open Text

theorem readNumber?_padded {width n : Nat} (hwidth : 1 ≤ width) (hn : n < 10 ^ width)
    (rest : List Char) : readNumber? width (padded 10 width n ++ rest) = some (n, rest) := by
  have hlength : (padded 10 width n).length = width := padded_length (by decide) hwidth hn
  have htake : (padded 10 width n ++ rest).take width = padded 10 width n := by
    rw [List.take_append_of_le_length hlength.ge, List.take_of_length_le hlength.le]
  have hdigits : (padded 10 width n).takeWhile Char.isDigit = padded 10 width n :=
    List.takeWhile_eq_self_iff.mpr fun c hc => isDigit_of_mem_padded hc
  have hsome : (padded 10 width n).isEmpty = false := by simp [padded]
  rw [readNumber?, htake, hdigits]
  simp only [hsome, Bool.false_eq_true, if_false, digitsValue_padded, List.drop_left]

theorem isOffset_of_hasDigitEnds {cs : List Char} (h : HasDigitEnds cs) : isOffset cs = false := by
  have hsign (c : Char) (hc : c.isDigit = true) : (c == '-' || c == '+') = false := by
    rw [Bool.or_eq_false_iff, beq_eq_false_iff_ne, beq_eq_false_iff_ne]
    constructor <;> rintro rfl <;> cases hc
  rw [isOffset, any_eq_false_of_isDigit hsign h.1,
    any_eq_false_of_isDigit (fun _ => isAlpha_of_isDigit) h.2]
  rfl

theorem trimStart_padded (width n : Nat) (rest : List Char) :
    trimStart (padded 10 width n ++ rest) = padded 10 width n ++ rest :=
  trimStart_eq_self (any_eq_false_of_isDigit (fun _ => isBlank_of_isDigit)
    ((padded_hasDigitEnds width n).head?_append rest))

theorem readField?_padded {n : Nat} (hn : n < 100) (rest : List Char) :
    readField? (padded 10 2 n ++ rest) = some (n, rest) := by
  rw [readField?, trimStart_padded, readNumber?_padded (by decide) hn]

/-- A year of four figures has no sign. -/
theorem readYear?_padded {n : Nat} (hn : n < 10000) (rest : List Char) :
    readYear? (padded 10 4 n ++ rest) = some ((n : Int), rest) := by
  have hhead := (padded_hasDigitEnds 4 n).head?_append rest
  have hnumber : readNumber? 4 (padded 10 4 n ++ rest) = some (n, rest) :=
    readNumber?_padded (by decide) hn rest
  rw [readYear?, trimStart_padded]
  generalize padded 10 4 n ++ rest = cs at hhead hnumber
  split
  · cases hhead
  · cases hhead
  · rw [hnumber]
    rfl

theorem readMark?_cons (mark : Char) (cs : List Char) : readMark? mark (mark :: cs) = some cs :=
  if_pos rfl

namespace Date

/-- A date with all its zeros, in some order and with some mark between the numbers. -/
def spelled (d : Date) (order : DateOrder) (mark : Char) : List Char :=
  let year := padded 10 4 d.year.toNat
  let month := padded 10 2 d.month
  let day := padded 10 2 d.day
  match order with
  | .yearMonthDay => year ++ mark :: (month ++ mark :: day)
  | .dayMonthYear => day ++ mark :: (month ++ mark :: year)
  | .monthDayYear => month ++ mark :: (day ++ mark :: year)

/-- A date by numbers of four and two figures. -/
structure Short (d : Date) : Prop where
  year_mem : d.year ∈ Set.Icc 0 9999
  month_lt : d.month < 100
  day_lt : d.day < 100

/-- Month and day exchanged. -/
def exchanged (d : Date) : Date := ⟨d.year, d.day, d.month⟩

variable {d : Date} {mark : Char}

theorem Short.exchanged (h : d.Short) : d.exchanged.Short := ⟨h.year_mem, h.day_lt, h.month_lt⟩

theorem readParts?_spelled (h : d.Short) (order : DateOrder) (mark : Char) :
    readParts? order mark (d.spelled order mark) = some d := by
  obtain ⟨⟨hzero, hyear⟩, hmonth, hday⟩ := h
  have hyear : d.year.toNat < 10000 := by omega
  have hlastField {n : Nat} (hn : n < 100) : readField? (padded 10 2 n) = some (n, []) := by
    simpa using readField?_padded hn []
  have hlastYear : readYear? (padded 10 4 d.year.toNat) = some (d.year, []) := by
    simpa [hzero] using readYear?_padded hyear []
  cases order with
  | yearMonthDay =>
      simp [readParts?, spelled, readYear?_padded hyear, readMark?_cons, readField?_padded hmonth,
        hlastField hday, hzero]
  | dayMonthYear =>
      simp [readParts?, spelled, readMark?_cons, readField?_padded hmonth, readField?_padded hday,
        hlastYear]
  | monthDayYear =>
      simp [readParts?, spelled, readMark?_cons, readField?_padded hmonth, readField?_padded hday,
        hlastYear]

theorem spelled_hasDigitEnds (d : Date) (order : DateOrder) (mark : Char) :
    HasDigitEnds (d.spelled order mark) := by
  have hends (width width' n n' : Nat) (middle : List Char) :
      HasDigitEnds (padded 10 width n ++ mark :: (middle ++ mark :: padded 10 width' n')) := by
    simpa using (padded_hasDigitEnds width n).append (padded_hasDigitEnds width' n')
      (mark :: (middle ++ [mark]))
  cases order <;> exact hends _ _ _ _ _

/-- The mark of a date is the first one in its text. -/
theorem find?_spelled (d : Date) (order : DateOrder) (hmark : isDateMark mark = true) :
    (d.spelled order mark).find? isDateMark = some mark := by
  have hdigits (width n : Nat) : (padded 10 width n).find? isDateMark = none := by
    apply List.find?_eq_none.mpr
    intro c hc
    have hdigit := isDigit_of_mem_padded hc
    rw [isDateMark, Bool.or_eq_true, Bool.or_eq_true, beq_iff_eq, beq_iff_eq, beq_iff_eq]
    rintro ((rfl | rfl) | rfl) <;> cases hdigit
  cases order <;> simp [spelled, List.find?_append, hdigits, hmark]

theorem dateOrders_yearMonthDay (h : d.Short) (mark : Char) :
    dateOrders mark (d.spelled .yearMonthDay mark) = [.yearMonthDay] := by
  obtain ⟨⟨hzero, hyear⟩, -, -⟩ := h
  have hlength : (padded 10 4 d.year.toNat).length = 4 :=
    padded_length (by decide) (by decide) (by omega)
  have hlead : (d.spelled .yearMonthDay mark).take 4 = padded 10 4 d.year.toNat :=
    List.take_left' hlength
  have hdigits : (padded 10 4 d.year.toNat).all Char.isDigit = true :=
    List.all_eq_true.mpr fun _ => isDigit_of_mem_padded
  rw [dateOrders, hlead, hlength, hdigits]
  rfl

/-- The order that is tried first where the year comes last. -/
def leading (mark : Char) : DateOrder := if mark == '/' then .monthDayYear else .dayMonthYear

/-- The order that is tried after it. -/
def second (mark : Char) : DateOrder := if mark == '/' then .dayMonthYear else .monthDayYear

theorem exists_spelled_leading (h : d.Short) (mark : Char) :
    ∃ n < 100, ∃ rest, d.spelled (leading mark) mark = padded 10 2 n ++ mark :: rest := by
  rw [leading]
  split
  · exact ⟨d.month, h.month_lt, _, rfl⟩
  · exact ⟨d.day, h.day_lt, _, rfl⟩

/-- Where the year comes last, one of the first four characters is a mark. -/
theorem dateOrders_of_year_last {n : Nat} (hn : n < 100) (hmark : isDateMark mark = true)
    (rest : List Char) :
    dateOrders mark (padded 10 2 n ++ mark :: rest) = [leading mark, second mark] := by
  have hlength : (padded 10 2 n).length = 2 := padded_length (by decide) (by decide) hn
  have hlead : ((padded 10 2 n ++ mark :: rest).take 4).all Char.isDigit = false := by
    have hnodigit : mark.isDigit = false := by
      simp only [isDateMark, Bool.or_eq_true, beq_iff_eq] at hmark
      rcases hmark with (rfl | rfl) | rfl <;> rfl
    apply List.all_eq_false.mpr
    refine ⟨mark, ?_, by simp [hnodigit]⟩
    simp [List.take_append, hlength]
  rw [dateOrders, hlead, Bool.and_false, leading, second]
  simp only [Bool.false_eq_true, if_false]
  split <;> rfl

theorem readDateIn?_spelled (h : d.Short) (order : DateOrder) (mark : Char) :
    readDateIn? mark (d.spelled order mark) order = if d.isValid then some d else none := by
  rw [readDateIn?, readParts?_spelled h, Option.filter_some]

theorem readDate?_spelled (d : Date) (order : DateOrder) (hmark : isDateMark mark = true) :
    readDate? (d.spelled order mark) =
      (dateOrders mark (d.spelled order mark)).findSome?
        (readDateIn? mark (d.spelled order mark)) := by
  rw [readDate?, (d.spelled_hasDigitEnds order mark).isTrimmed.trimChars_eq,
    d.find?_spelled order hmark]
  rfl

theorem readDate?_yearMonthDay (h : d.Short) (hvalid : d.isValid = true)
    (hmark : isDateMark mark = true) : readDate? (d.spelled .yearMonthDay mark) = some d := by
  rw [readDate?_spelled d _ hmark, dateOrders_yearMonthDay h, List.findSome?_cons,
    readDateIn?_spelled h, if_pos hvalid]

theorem dateOrders_leading (h : d.Short) (hmark : isDateMark mark = true) :
    dateOrders mark (d.spelled (leading mark) mark) = [leading mark, second mark] := by
  obtain ⟨n, hn, rest, hspelled⟩ := exists_spelled_leading h mark
  rw [hspelled, dateOrders_of_year_last hn hmark]

/-- A date in the second order is the exchanged date in the leading one. -/
theorem spelled_second (d : Date) (mark : Char) :
    d.spelled (second mark) mark = d.exchanged.spelled (leading mark) mark := by
  rw [second, leading]
  split <;> rfl

theorem readDate?_leading (h : d.Short) (hvalid : d.isValid = true)
    (hmark : isDateMark mark = true) : readDate? (d.spelled (leading mark) mark) = some d := by
  rw [readDate?_spelled d _ hmark, dateOrders_leading h hmark, List.findSome?_cons,
    readDateIn?_spelled h, if_pos hvalid]

theorem readDate?_second (h : d.Short) (hvalid : d.isValid = true)
    (hmark : isDateMark mark = true) :
    readDate? (d.spelled (second mark) mark) =
      some (if d.exchanged.isValid then d.exchanged else d) := by
  have hfirst := readDateIn?_spelled h.exchanged (leading mark) mark
  have hsecond := readDateIn?_spelled h (second mark) mark
  rw [spelled_second] at hsecond
  rw [readDate?_spelled d _ hmark, spelled_second, dateOrders_leading h.exchanged hmark,
    List.findSome?_cons, hfirst]
  by_cases hexchanged : d.exchanged.isValid = true
  · rw [if_pos hexchanged, if_pos hexchanged]
  · rw [if_neg hexchanged, if_neg hexchanged, List.findSome?_cons, hsecond, if_pos hvalid]

/-- Every month has a twelfth day, so a date can be exchanged if its
day is the number of a month. -/
theorem exchanged_isValid_iff (hvalid : d.isValid = true) :
    d.exchanged.isValid = true ↔ d.day ≤ 12 := by
  have hlength (hone : 1 ≤ d.day) (htwelve : d.day ≤ 12) :
      28 ≤ (monthLengths d.year).getD (d.day - 1) 0 := by
    have hday : d.day - 1 < (monthLengths d.year).length := by
      change d.day - 1 < 12
      omega
    rw [List.getD_eq_getElem _ _ hday]
    exact le_monthLengths d.year _ (List.getElem_mem hday)
  simp only [isValid, Bool.and_eq_true, decide_eq_true_eq] at hvalid ⊢
  simp only [exchanged]
  constructor
  · rintro ⟨⟨⟨-, htwelve⟩, -⟩, -⟩
    exact htwelve
  · intro htwelve
    have hlength := hlength (by omega) htwelve
    omega

theorem exchanged_eq_self_iff : d.exchanged = d ↔ d.day = d.month := by
  obtain ⟨year, month, day⟩ := d
  simp only [exchanged, mk.injEq, true_and]
  exact ⟨And.left, fun h => ⟨h, h.symm⟩⟩

theorem short_of_isValid (hvalid : d.isValid = true) (hyear : d.year ∈ Set.Icc 0 9999) :
    d.Short := by
  obtain ⟨hmonth, hday⟩ := le_of_isValid hvalid
  exact ⟨hyear, by omega, by omega⟩

/-- In the second order, a date is read as itself only where the leading order does not mislead. -/
theorem readDate?_second_eq_some_iff (h : d.Short) (hvalid : d.isValid = true)
    (hmark : isDateMark mark = true) :
    readDate? (d.spelled (second mark) mark) = some d ↔ 12 < d.day ∨ d.day = d.month := by
  rw [readDate?_second h hvalid hmark, Option.some.injEq]
  by_cases hexchanged : d.exchanged.isValid = true
  · have htwelve := (exchanged_isValid_iff hvalid).mp hexchanged
    rw [if_pos hexchanged, exchanged_eq_self_iff]
    omega
  · have htwelve := mt (exchanged_isValid_iff hvalid).mpr hexchanged
    rw [if_neg hexchanged]
    exact iff_of_true rfl (.inl (by omega))

theorem not_mem_spelled {c : Char} (hc : c.isDigit = false) (hmark : c ≠ mark) (d : Date)
    (order : DateOrder) : c ∉ d.spelled order mark := by
  have hpadded (width n : Nat) : c ∉ padded 10 width n := by
    intro hmem
    rw [isDigit_of_mem_padded hmem] at hc
    cases hc
  cases order <;> simp [spelled, hpadded, hmark]

end Date

/-- Hour and minute, two figures each. -/
def clock (time : Fin 24 × Fin 60) : List Char := padded 10 2 time.1 ++ ':' :: padded 10 2 time.2

theorem clock_hasDigitEnds (time : Fin 24 × Fin 60) : HasDigitEnds (clock time) := by
  simpa [clock] using (padded_hasDigitEnds 2 time.1).append (padded_hasDigitEnds 2 time.2) [':']

theorem readTime?_clock (time : Fin 24 × Fin 60) :
    readTime? (clock time) = some (time.1.val, time.2.val) := by
  obtain ⟨hour, minute⟩ := time
  have hminute : readField? (padded 10 2 minute) = some (minute.val, []) := by
    simpa using readField?_padded (show minute.val < 100 by omega) []
  have hhour : readField? (clock (hour, minute)) = some (hour.val, ':' :: padded 10 2 minute) :=
    readField?_padded (by omega) _
  simp [readTime?, hhour, readMark?_cons, hminute]

/-- A date with a time of day is a minute, and one without is a day. -/
def Moment.on (d : Date) : Option (Fin 24 × Fin 60) → Moment
  | none => .day d
  | some time => .minute ⟨d, time.1, time.2⟩

theorem Moment.on_injective (time : Option (Fin 24 × Fin 60)) :
    Function.Injective (Moment.on · time) := by
  intro d d' h
  cases time with
  | none => exact Moment.day.inj h
  | some time => exact (Minute.mk.inj (Moment.minute.inj h)).1

/-- Dates are cut from times at the blank between them. -/
theorem Moment.read?_of_hasDigitEnds {cs : List Char} (hcs : HasDigitEnds cs) (hblank : ' ' ∉ cs)
    (now : Option Int) (time : Option (Fin 24 × Fin 60)) :
    Moment.read? now (cs ++ marked ' ' (time.map clock)) =
      (readDate? cs).map (Moment.on · time) := by
  have hends : HasDigitEnds (cs ++ marked ' ' (time.map clock)) := by
    cases time with
    | none => simpa [marked] using hcs
    | some time => simpa [marked] using hcs.append (clock_hasDigitEnds time) [' ']
  rw [Moment.read?, hends.isTrimmed.trimChars_eq]
  simp only [isOffset_of_hasDigitEnds hends, Bool.false_eq_true, if_false, splitFirst_marked hblank]
  cases time with
  | none => rfl
  | some time =>
      rw [Option.map_some]
      simp only [(clock_hasDigitEnds time).isTrimmed.trimChars_eq, readTime?_clock]
      cases readDate? cs <;> rfl

/-- A date with all its zeros, and a time of day after a blank if there is one. -/
def Date.literal (d : Date) (order : DateOrder) (mark : Char) (time : Option (Fin 24 × Fin 60)) :
    Literal :=
  .text (String.ofList (d.spelled order mark ++ marked ' ' (time.map clock)))

theorem readMoment?_literal (now : Option Int) (d : Date) (order : DateOrder) {mark : Char}
    (hmark : isDateMark mark = true) (time : Option (Fin 24 × Fin 60)) :
    readMoment? now (d.literal order mark time) =
      (readDate? (d.spelled order mark)).map (Moment.on · time) := by
  have hblank : ' ' ≠ mark := by
    rintro rfl
    cases hmark
  rw [Date.literal, readMoment?, String.toList_ofList]
  exact Moment.read?_of_hasDigitEnds (d.spelled_hasDigitEnds order mark)
    (Date.not_mem_spelled rfl hblank d order) now time

/-- Year, month and day one after the other. -/
def Date.figures (d : Date) : List Char :=
  padded 10 4 d.year.toNat ++ padded 10 2 d.month ++ padded 10 2 d.day

/-- Hour and minute one after the other. -/
def figures (time : Fin 24 × Fin 60) : List Char := padded 10 2 time.1 ++ padded 10 2 time.2

theorem Minute.write_of_year_mem {m : Minute} (hyear : m.date.year ∈ Set.Icc 0 9999) :
    m.write = String.ofList (m.date.figures ++ (padded 10 2 m.hour ++ padded 10 2 m.minute)) := by
  rw [write, Date.write, Date.writeYear_of_mem hyear, List.append_assoc _ (padded 10 2 m.hour)]
  rfl

/-- Days are bounded by their first and last minute, and minutes by themselves. -/
theorem Measure.bounds?_of_readMoment? {now : Option Int} {l : Literal} {d : Date}
    {time : Option (Fin 24 × Fin 60)} (hread : readMoment? now l = some (.on d time))
    (hyear : d.year ∈ Set.Icc 0 9999) :
    (Measure.date now).bounds? l =
      some ⟨String.ofList (d.figures ++ time.elim "0000".toList figures),
        String.ofList (d.figures ++ time.elim "2359".toList figures)⟩ := by
  simp only [bounds?, hread, Option.map_some]
  cases time with
  | none =>
      have hfirst : (Minute.first d).write = String.ofList (d.figures ++ "0000".toList) := by
        have hfigures : "0000".toList = padded 10 2 0 ++ padded 10 2 0 := by decide
        rw [Minute.write_of_year_mem hyear, hfigures]
        rfl
      have hlast : (Minute.last d).write = String.ofList (d.figures ++ "2359".toList) := by
        have hfigures : "2359".toList = padded 10 2 23 ++ padded 10 2 59 := by decide
        rw [Minute.write_of_year_mem hyear, hfigures]
        rfl
      exact congrArg some (congrArg₂ Bounds.mk hfirst hlast)
  | some time =>
      have hminute :
          (Minute.mk d time.1 time.2).write = String.ofList (d.figures ++ figures time) :=
        Minute.write_of_year_mem hyear
      exact congrArg some (congrArg₂ Bounds.mk hminute hminute)

/-- Every day of the years 0 to 9999, with or without a time, is read alike from six
spellings, has the same word in all of them and is bounded by its first and last minute, or by
that minute. The other three spellings have month and day exchanged, and are read as that day
only if no other day can be meant. -/
theorem date_spellings_agree (now : Option Int) (d : Date) (hvalid : d.isValid = true)
    (hyear : d.year ∈ Set.Icc 0 9999) (time : Option (Fin 24 × Fin 60)) :
    (∀ spelling ∈ [(DateOrder.yearMonthDay, '-'), (.yearMonthDay, '/'), (.yearMonthDay, '.'),
          (.dayMonthYear, '-'), (.dayMonthYear, '.'), (.monthDayYear, '/')],
        readMoment? now (d.literal spelling.1 spelling.2 time) = some (.on d time) ∧
          (Measure.date now).word? (d.literal spelling.1 spelling.2 time) =
            some (String.ofList (d.figures ++ time.elim "0000".toList figures)) ∧
          (Measure.date now).bounds? (d.literal spelling.1 spelling.2 time) =
            some ⟨String.ofList (d.figures ++ time.elim "0000".toList figures),
              String.ofList (d.figures ++ time.elim "2359".toList figures)⟩) ∧
      ∀ spelling ∈ [(DateOrder.monthDayYear, '-'), (.monthDayYear, '.'), (.dayMonthYear, '/')],
        (readMoment? now (d.literal spelling.1 spelling.2 time) = some (.on d time) ↔
          12 < d.day ∨ d.day = d.month) := by
  have hshort := Date.short_of_isValid hvalid hyear
  constructor
  · intro spelling hspelling
    obtain ⟨hmark, horder⟩ : isDateMark spelling.2 = true ∧
        (spelling.1 = .yearMonthDay ∨ spelling.1 = Date.leading spelling.2) := by
      revert spelling
      decide
    have hdate : readDate? (d.spelled spelling.1 spelling.2) = some d := by
      rcases horder with horder | horder
      · rw [horder]
        exact Date.readDate?_yearMonthDay hshort hvalid hmark
      · rw [horder]
        exact Date.readDate?_leading hshort hvalid hmark
    have hread : readMoment? now (d.literal spelling.1 spelling.2 time) = some (.on d time) := by
      rw [readMoment?_literal now d _ hmark, hdate, Option.map_some]
    have hbounds := Measure.bounds?_of_readMoment? hread hyear
    exact ⟨hread, by rw [Measure.word?, hbounds, Option.map_some], hbounds⟩
  · intro spelling hspelling
    obtain ⟨hmark, horder⟩ :
        isDateMark spelling.2 = true ∧ spelling.1 = Date.second spelling.2 := by
      revert spelling
      decide
    rw [readMoment?_literal now d _ hmark, horder,
      ← Date.readDate?_second_eq_some_iff hshort hvalid hmark]
    exact (Option.map_injective (Moment.on_injective time)).eq_iff' rfl

/-- The leap day of the year zero is read from every spelling; the third of April is not. -/
theorem date_spellings_agree_on_leap_day :
    let leapDay : Date := ⟨0, 2, 29⟩
    let third : Date := ⟨2024, 4, 3⟩
    leapDay.isValid = true ∧ third.isValid = true ∧ leapDay.year ∈ Set.Icc 0 9999 ∧
      third.year ∈ Set.Icc 0 9999 ∧
      (Measure.date none).word? (.text "29.02.0000 09:05") = some "000002290905" ∧
      (Measure.date none).bounds? (.text "02/29/0000") = some ⟨"000002290000", "000002292359"⟩ ∧
      readMoment? none (.text "29/02/0000") = some (.day leapDay) ∧
      readMoment? none (.text "03-04-2024") = some (.day third) ∧
      readMoment? none (.text "03/04/2024") ≠ some (.day third) := by
  intro leapDay third
  have hleap : leapDay.isValid = true := by decide
  have hthird : third.isValid = true := by decide
  have hzero : leapDay.year ∈ Set.Icc 0 9999 := by decide
  have hyear : third.year ∈ Set.Icc 0 9999 := by decide
  have hnine := date_spellings_agree none leapDay hleap hzero (some (9, 5))
  have hday := date_spellings_agree none leapDay hleap hzero none
  have hapril := date_spellings_agree none third hthird hyear none
  have hdots : leapDay.literal .dayMonthYear '.' (some (9, 5)) = .text "29.02.0000 09:05" := by
    decide +kernel
  have hslashes : leapDay.literal .monthDayYear '/' none = .text "02/29/0000" := by decide +kernel
  have hswapped : leapDay.literal .dayMonthYear '/' none = .text "29/02/0000" := by decide +kernel
  have hdashes : third.literal .dayMonthYear '-' none = .text "03-04-2024" := by decide +kernel
  have hmisread : third.literal .dayMonthYear '/' none = .text "03/04/2024" := by decide +kernel
  have hminute : String.ofList (leapDay.figures ++ figures (9, 5)) = "000002290905" := by
    decide +kernel
  have hfirst : String.ofList (leapDay.figures ++ "0000".toList) = "000002290000" := by
    decide +kernel
  have hlast : String.ofList (leapDay.figures ++ "2359".toList) = "000002292359" := by
    decide +kernel
  refine ⟨hleap, hthird, hzero, hyear, ?_, ?_, ?_, ?_, ?_⟩
  · rw [← hdots, ← hminute]
    exact (hnine.1 (.dayMonthYear, '.') (by decide)).2.1
  · rw [← hslashes, ← hfirst, ← hlast]
    exact (hday.1 (.monthDayYear, '/') (by decide)).2.2
  · rw [← hswapped]
    exact (hday.2 (.dayMonthYear, '/') (by decide)).mpr (.inl (by decide))
  · rw [← hdashes]
    exact (hapril.1 (.dayMonthYear, '-') (by decide)).1
  · rw [← hmisread]
    exact mt (hapril.2 (.dayMonthYear, '/') (by decide)).mp (by decide)

end Value

end FilterCompiler
