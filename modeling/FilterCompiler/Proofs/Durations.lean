import FilterCompiler.Proofs.Spelling

/-!
The grammar of durations. `Itemized` says which texts are amounts of units one after the other, by
the characters that an amount, a unit and a gap are made of and without reference to how they are
found. Digits and letters go on for as long as they can, so a text is cut in one way at most;
reading follows that cut and finds nothing in any other text.
-/

namespace FilterCompiler.Value

open Text

/-- At least one digit and at most one point. -/
structure IsAmount (cs : List Char) : Prop where
  digit : ∃ c ∈ cs, c.isDigit = true
  point : cs.count '.' ≤ 1

-- By `any`, because the existential over characters would be decided by going through all of them.
instance (cs : List Char) : Decidable (IsAmount cs) :=
  decidable_of_iff (cs.any Char.isDigit = true ∧ cs.count '.' ≤ 1)
    ⟨fun h => ⟨List.any_eq_true.mp h.1, h.2⟩, fun h => ⟨List.any_eq_true.mpr h.digit, h.point⟩⟩

/-- How many characters come after the point. -/
def places (cs : List Char) : Nat := (cs.dropWhile (· != '.')).length - 1

section Amount

variable {cs ds whole fraction : List Char}

theorem IsAmount.ne_nil (h : IsAmount cs) : cs ≠ [] := by
  obtain ⟨c, hc, -⟩ := h.digit
  exact List.ne_nil_of_mem hc

theorem bne_point (hdigits : ∀ c ∈ ds, c.isDigit = true) : ∀ c ∈ ds, (c != '.') = true := by
  intro c hc
  rw [bne_iff_ne]
  rintro rfl
  exact Bool.false_ne_true (hdigits '.' hc)

theorem count_point (hdigits : ∀ c ∈ ds, c.isDigit = true) : ds.count '.' = 0 :=
  List.count_eq_zero.mpr fun hpoint => bne_iff_ne.mp (bne_point hdigits '.' hpoint) rfl

/-- Digits alone, or digits up to a first point. -/
theorem digits_or_point (hcs : ∀ c ∈ cs, isAmountChar c = true) :
    (∀ c ∈ cs, c.isDigit = true) ∨
      ∃ whole fraction, cs = whole ++ '.' :: fraction ∧ ∀ c ∈ whole, c.isDigit = true := by
  have hrun := isRun_takeWhile Char.isDigit cs
  have hboth := List.takeWhile_append_dropWhile (p := Char.isDigit) (l := cs)
  cases hrest : cs.dropWhile Char.isDigit with
  | nil => exact .inl (List.dropWhile_eq_nil_iff.mp hrest)
  | cons c fraction =>
      rw [hrest] at hrun hboth
      have hdigit : c.isDigit = false := hrun.ends
      have hc : isAmountChar c = true := hcs c (by rw [← hboth]; simp)
      rw [isAmountChar, hdigit, Bool.false_or, beq_iff_eq] at hc
      exact .inr ⟨_, fraction, hc ▸ hboth.symm, hrun.all⟩

theorem isAmount_digits_iff (hdigits : ∀ c ∈ ds, c.isDigit = true) : IsAmount ds ↔ ds ≠ [] := by
  refine ⟨IsAmount.ne_nil, fun hne => ?_⟩
  obtain ⟨c, hc⟩ := List.exists_mem_of_ne_nil ds hne
  exact ⟨⟨c, hc, hdigits c hc⟩, by simp [count_point hdigits]⟩

theorem isAmount_point_iff (hwhole : ∀ c ∈ whole, c.isDigit = true)
    (hfraction : ∀ c ∈ fraction, isAmountChar c = true) :
    IsAmount (whole ++ '.' :: fraction) ↔
      whole ++ fraction ≠ [] ∧ ∀ c ∈ fraction, c.isDigit = true := by
  have hcount : (whole ++ '.' :: fraction).count '.' = fraction.count '.' + 1 := by
    rw [List.count_append, count_point hwhole, List.count_cons_self, Nat.zero_add]
  constructor
  · rintro ⟨⟨c, hc, hdigit⟩, hpoint⟩
    have hmember : c ∈ whole ++ fraction := by
      rcases List.mem_append.mp hc with hc | hc
      · exact List.mem_append_left _ hc
      · rcases List.mem_cons.mp hc with rfl | hc
        · cases hdigit
        · exact List.mem_append_right _ hc
    have hnopoint : '.' ∉ fraction := List.count_eq_zero.mp (by omega)
    refine ⟨List.ne_nil_of_mem hmember, fun d hd => ?_⟩
    rcases Bool.or_eq_true_iff.mp (hfraction d hd) with hdigit | hdot
    · exact hdigit
    · exact absurd (beq_iff_eq.mp hdot ▸ hd) hnopoint
  · rintro ⟨hne, hdigits⟩
    obtain ⟨c, hc⟩ := List.exists_mem_of_ne_nil _ hne
    refine ⟨⟨c, ?_, ?_⟩, ?_⟩
    · simp only [List.mem_append, List.mem_cons] at hc ⊢
      tauto
    · exact (List.mem_append.mp hc).elim (hwhole c) (hdigits c)
    · rw [hcount, count_point hdigits]

theorem places_digits (hdigits : ∀ c ∈ ds, c.isDigit = true) : places ds = 0 := by
  rw [places, List.dropWhile_eq_nil_iff.mpr (bne_point hdigits)]
  rfl

theorem places_point (hwhole : ∀ c ∈ whole, c.isDigit = true) (fraction : List Char) :
    places (whole ++ '.' :: fraction) = fraction.length := by
  rw [places, List.dropWhile_append_of_pos (bne_point hwhole)]
  rfl

/-- An amount is read as its digits, with as many places as come after the point. -/
theorem readAmount?_eq_some_iff (hcs : ∀ c ∈ cs, isAmountChar c = true) {amount : Nat × Nat} :
    readAmount? cs = some amount ↔
      IsAmount cs ∧ (digitsValue (cs.filter Char.isDigit), places cs) = amount := by
  rcases digits_or_point hcs with hdigits | ⟨whole, fraction, rfl, hwhole⟩
  · have hwhole : cs.takeWhile Char.isDigit = cs := List.takeWhile_eq_self_iff.mpr hdigits
    have hrest : cs.dropWhile Char.isDigit = [] := List.dropWhile_eq_nil_iff.mpr hdigits
    rw [isAmount_digits_iff hdigits, places_digits hdigits, List.filter_eq_self.mpr hdigits,
      readAmount?, hwhole, hrest]
    simp
  · have hrun : IsRun Char.isDigit whole ('.' :: fraction) := ⟨hwhole, rfl⟩
    have hfraction : ∀ c ∈ fraction, isAmountChar c = true := fun c hc => hcs c (by simp [hc])
    have hread : readAmount? (whole ++ '.' :: fraction) = some amount ↔
        (whole ++ fraction ≠ [] ∧ ∀ c ∈ fraction, c.isDigit = true) ∧
          (digitsValue (whole ++ fraction), fraction.length) = amount := by
      rw [readAmount?, hrun.takeWhile_eq, hrun.dropWhile_eq]
      simp [Option.ite_none_left_eq_some]
    rw [isAmount_point_iff hwhole hfraction, places_point hwhole, hread]
    refine and_congr_right fun ⟨_, hdigits⟩ => ?_
    have hfilter : (whole ++ '.' :: fraction).filter Char.isDigit = whole ++ fraction := by
      rw [List.filter_append, List.filter_cons_of_neg (by decide), List.filter_eq_self.mpr hwhole,
        List.filter_eq_self.mpr hdigits]
    rw [hfilter]

end Amount

/-- What an amount can be an amount of. -/
inductive TimeUnit where
  | minute
  | hour
  | day
  | week
deriving DecidableEq

namespace TimeUnit

/-- The names in lower case; minutes need none. -/
def names : TimeUnit → List String
  | minute => ["", "m", "min", "mins", "minute", "minutes"]
  | hour => ["h", "hr", "hrs", "hour", "hours"]
  | day => ["d", "day", "days"]
  | week => ["w", "wk", "week", "weeks"]

/-- A name of the unit, in any case. -/
def IsName (u : TimeUnit) (cs : List Char) : Prop := String.ofList (cs.map Char.toLower) ∈ u.names

instance (u : TimeUnit) (cs : List Char) : Decidable (u.IsName cs) :=
  inferInstanceAs (Decidable (String.ofList (cs.map Char.toLower) ∈ u.names))

theorem IsName.unique {u v : TimeUnit} {cs : List Char} (hu : u.IsName cs) (hv : v.IsName cs) :
    u = v := by
  revert hv
  unfold IsName at hu ⊢
  generalize String.ofList (cs.map Char.toLower) = name at hu ⊢
  cases u <;> fin_cases hu <;> cases v <;> decide

/-- The length in seconds. -/
def length (units : DurationUnits) : TimeUnit → Int64
  | minute => 60
  | hour => 3600
  | day => units.day
  | week => units.week

end TimeUnit

theorem DurationUnits.seconds?_eq_some_iff {units : DurationUnits} {cs : List Char} {n : Int64} :
    units.seconds? cs = some n ↔ ∃ u : TimeUnit, u.IsName cs ∧ u.length units = n := by
  unfold seconds? TimeUnit.IsName
  generalize String.ofList (cs.map Char.toLower) = name
  constructor
  · intro h
    split at h
    case h_1 | h_2 | h_3 | h_4 | h_5 | h_6 => exact ⟨.minute, by decide, Option.some.inj h⟩
    case h_7 | h_8 | h_9 | h_10 | h_11 => exact ⟨.hour, by decide, Option.some.inj h⟩
    case h_12 | h_13 | h_14 => exact ⟨.day, by decide, Option.some.inj h⟩
    case h_15 | h_16 | h_17 | h_18 => exact ⟨.week, by decide, Option.some.inj h⟩
    case h_19 => cases h
  · rintro ⟨u, hname, rfl⟩
    cases u <;> fin_cases hname <;> rfl

/-- An amount of a unit. The amount stands as it is written. -/
structure Entry where
  amount : List Char
  unit : TimeUnit

namespace Entry

/-- The floating-point number nearest to the amount. -/
def number (e : Entry) : Float :=
  Float.ofScientific (digitsValue (e.amount.filter Char.isDigit)) true (places e.amount)

def seconds (units : DurationUnits) (e : Entry) : Float :=
  e.number * Float.ofInt (e.unit.length units).toInt

/-- The seconds of all entries, added up from the left. -/
def total (units : DurationUnits) (entries : List Entry) : Float :=
  entries.foldl (fun sum e => sum + e.seconds units) 0.0

/-- What is read for an entry. -/
def item (units : DurationUnits) (e : Entry) : DurationItem :=
  ⟨digitsValue (e.amount.filter Char.isDigit), places e.amount, e.unit.length units⟩

theorem totalSeconds_items (units : DurationUnits) (entries : List Entry) :
    totalSeconds (entries.map (item units)) = total units entries :=
  List.foldl_map

end Entry

/-- A text cut into amounts of units. The digits and points of an amount go on for as long as they
can, and so do the letters of its unit; white space may follow. -/
inductive Itemized : List Char → List Entry → Prop where
  | nothing : Itemized [] []
  | entry {amount name gap rest : List Char} {unit : TimeUnit} {entries : List Entry}
      (hamount : IsAmount amount) (hfigures : IsRun isAmountChar amount (name ++ (gap ++ rest)))
      (hname : unit.IsName name) (hletters : IsRun Char.isAlpha name (gap ++ rest))
      (hgap : ∀ c ∈ gap, isBlank c = true) (hrest : Itemized rest entries) :
      Itemized (amount ++ (name ++ (gap ++ rest))) (⟨amount, unit⟩ :: entries)

section Cuts

/-- The characters at the front of a text that can make an amount. -/
def figuresPart (cs : List Char) : List Char := cs.takeWhile isAmountChar

def afterFigures (cs : List Char) : List Char := cs.dropWhile isAmountChar

/-- The letters that directly follow an amount. -/
def namePart (cs : List Char) : List Char := (afterFigures cs).takeWhile Char.isAlpha

def afterName (cs : List Char) : List Char := (afterFigures cs).dropWhile Char.isAlpha

variable {units : DurationUnits} {cs : List Char} {e : Entry} {entries others : List Entry}
  {items : List DurationItem}

theorem isAmountChar_of_mem_figuresPart {c : Char} (hc : c ∈ figuresPart cs) :
    isAmountChar c = true :=
  List.mem_takeWhile_imp hc

theorem figuresPart_cons {c : Char} (hc : isAmountChar c = true) (rest : List Char) :
    figuresPart (c :: rest) = c :: rest.takeWhile isAmountChar :=
  List.takeWhile_cons_of_pos hc

theorem afterFigures_cons {c : Char} (hc : isAmountChar c = true) (rest : List Char) :
    afterFigures (c :: rest) = rest.dropWhile isAmountChar :=
  List.dropWhile_cons_of_pos hc

theorem exists_cons_of_isAmount (h : IsAmount (figuresPart cs)) :
    ∃ c rest, cs = c :: rest ∧ isAmountChar c = true := by
  cases cs with
  | nil => exact absurd rfl h.ne_nil
  | cons c rest =>
      refine ⟨c, rest, rfl, ?_⟩
      by_contra hc
      exact h.ne_nil (List.takeWhile_cons_of_neg hc)

theorem isBlank_of_isAmountChar {c : Char} (hc : isAmountChar c = true) : isBlank c = false := by
  rcases Bool.or_eq_true_iff.mp hc with hdigit | hpoint
  · exact isBlank_of_isDigit hdigit
  · rw [beq_iff_eq.mp hpoint]
    decide

/-- White space before an entry belongs to the entry before it. -/
theorem Itemized.head?_isBlank (h : Itemized cs entries) : cs.head?.any isBlank = false := by
  cases h with
  | nothing => rfl
  | entry hamount hfigures =>
      obtain ⟨c, amount, rfl⟩ := List.exists_cons_of_ne_nil hamount.ne_nil
      exact isBlank_of_isAmountChar (hfigures.all c List.mem_cons_self)

theorem itemized_nil_iff : Itemized cs [] ↔ cs = [] := by
  constructor
  · rintro (_ | _)
    rfl
  · rintro rfl
    exact .nothing

/-- The first entry of a text ends where the text says: after its digits and points, the letters
after them and the white space after these. -/
theorem itemized_cons_iff : Itemized cs (e :: entries) ↔
    (figuresPart cs = e.amount ∧ IsAmount e.amount ∧ e.unit.IsName (namePart cs)) ∧
      Itemized (trimStart (afterName cs)) entries := by
  constructor
  · rintro (_ | ⟨hamount, hfigures, hname, hletters, hgap, hrest⟩)
    have hblank : IsRun isBlank _ _ := ⟨hgap, hrest.head?_isBlank⟩
    rw [figuresPart, namePart, afterName, afterFigures, trimStart, hfigures.takeWhile_eq,
      hfigures.dropWhile_eq, hletters.takeWhile_eq, hletters.dropWhile_eq, hblank.dropWhile_eq]
    exact ⟨⟨rfl, hamount, hname⟩, hrest⟩
  · obtain ⟨amount, unit⟩ := e
    rintro ⟨⟨rfl, hamount, hname⟩, hrest⟩
    have hfigures : IsRun isAmountChar (figuresPart cs) (afterFigures cs) := isRun_takeWhile _ cs
    have hletters : IsRun Char.isAlpha (namePart cs) (afterName cs) := isRun_takeWhile _ _
    have hgap := isRun_takeWhile isBlank (afterName cs)
    have hcs : figuresPart cs ++ afterFigures cs = cs := List.takeWhile_append_dropWhile
    have hafterFigures : namePart cs ++ afterName cs = afterFigures cs :=
      List.takeWhile_append_dropWhile
    have hafterName : (afterName cs).takeWhile isBlank ++ trimStart (afterName cs) = afterName cs :=
      List.takeWhile_append_dropWhile
    -- Every run ends where the next cut begins, once the pieces behind it are put together again.
    have hitem := Itemized.entry hamount (by rwa [hafterName, hafterFigures]) hname
      (by rwa [hafterName]) hgap.all hrest
    rwa [hafterName, hafterFigures, hcs] at hitem

theorem Itemized.eq_nil_iff (h : Itemized cs entries) : entries = [] ↔ cs = [] := by
  cases entries with
  | nil => exact iff_of_true rfl (itemized_nil_iff.mp h)
  | cons e entries =>
      obtain ⟨⟨hfigures, hamount, -⟩, -⟩ := itemized_cons_iff.mp h
      obtain ⟨c, rest, rfl, -⟩ := exists_cons_of_isAmount (hfigures ▸ hamount)
      simp

/-- A text is cut into entries in one way at most. -/
theorem Itemized.unique (h : Itemized cs entries) (hothers : Itemized cs others) :
    entries = others := by
  induction entries generalizing cs others with
  | nil => exact (hothers.eq_nil_iff.mpr (itemized_nil_iff.mp h)).symm
  | cons e entries ih =>
      cases others with
      | nil => exact h.eq_nil_iff.mpr (itemized_nil_iff.mp hothers)
      | cons other others =>
          obtain ⟨⟨hfigures, -, hname⟩, hrest⟩ := itemized_cons_iff.mp h
          obtain ⟨⟨hfigures', -, hname'⟩, hrest'⟩ := itemized_cons_iff.mp hothers
          have hentry : e = other := by
            cases e
            cases other
            exact congrArg₂ Entry.mk (hfigures.symm.trans hfigures') (hname.unique hname')
          rw [hentry, ih hrest hrest']

/-- One round of reading takes the first entry off the text. -/
theorem readItems?_cut (units : DurationUnits) (hfigures : figuresPart cs = e.amount)
    (hamount : IsAmount e.amount) (hname : e.unit.IsName (namePart cs)) :
    readItems? units cs =
      (readItems? units (trimStart (afterName cs))).map (e.item units :: ·) := by
  rw [← hfigures] at hamount
  have hread :=
    (readAmount?_eq_some_iff fun _ => isAmountChar_of_mem_figuresPart).mpr ⟨hamount, rfl⟩
  have hseconds : units.seconds? (namePart cs) = some (e.unit.length units) :=
    DurationUnits.seconds?_eq_some_iff.mpr ⟨e.unit, hname, rfl⟩
  rw [Entry.item, ← hfigures]
  obtain ⟨c, rest, rfl, hc⟩ := exists_cons_of_isAmount hamount
  rw [namePart, afterFigures_cons hc] at hseconds
  rw [readItems?, if_pos hc, ← figuresPart_cons hc, afterName, afterFigures_cons hc]
  simp only [hread, hseconds]
  cases readItems? units (trimStart ((rest.dropWhile isAmountChar).dropWhile Char.isAlpha)) <;> rfl

theorem Itemized.readItems? (units : DurationUnits) (h : Itemized cs entries) :
    readItems? units cs = some (entries.map (Entry.item units)) := by
  induction entries generalizing cs with
  | nil => rw [itemized_nil_iff.mp h, Value.readItems?, List.map_nil]
  | cons e entries ih =>
      obtain ⟨⟨hfigures, hamount, hname⟩, hrest⟩ := itemized_cons_iff.mp h
      rw [readItems?_cut units hfigures hamount hname, ih hrest, Option.map_some, List.map_cons]

theorem exists_itemized (h : readItems? units cs = some items) :
    ∃ entries, Itemized cs entries := by
  fun_induction readItems? units cs generalizing items with
  | case1 => exact ⟨[], .nothing⟩
  | case2 c rest hc afterAmount =>
      rename_i ih
      simp only [Option.bind_eq_bind, Option.bind_eq_some_iff] at h
      obtain ⟨_, hread, _, hseconds, _, hrest, -⟩ := h
      obtain ⟨entries, hentries⟩ := ih hrest
      obtain ⟨unit, hname, -⟩ := DurationUnits.seconds?_eq_some_iff.mp hseconds
      have hafter : afterFigures (c :: rest) = afterAmount := afterFigures_cons hc rest
      rw [← figuresPart_cons hc] at hread
      rw [← hafter] at hname hentries
      have hamount :=
        ((readAmount?_eq_some_iff fun _ => isAmountChar_of_mem_figuresPart).mp hread).1
      exact ⟨⟨_, unit⟩ :: entries, itemized_cons_iff.mpr ⟨⟨rfl, hamount, hname⟩, hentries⟩⟩
  | case3 => cases h

end Cuts

/-- One or more amounts of units. -/
def IsDuration (cs : List Char) (entries : List Entry) : Prop := entries ≠ [] ∧ Itemized cs entries

/-- The bound is the largest 64-bit integer in floating point, where it is rounded up. -/
theorem wholeSeconds?_eq (total : Float) :
    wholeSeconds? total =
      if total.round.isFinite = true ∧ ¬Float.ofInt Int64.maxValue.toInt < total.round then
        some total.round.toInt64
      else none := by
  have hbound : Float.ofInt Int64.maxValue.toInt = 9223372036854775808.0 := by decide +kernel
  rw [hbound, wholeSeconds?]
  cases total.round.isFinite <;> simp

theorem readDuration?_of_isDuration (units : DurationUnits) {raw : List Char} {entries : List Entry}
    (h : IsDuration (trimChars raw) entries) :
    readDuration? units raw = wholeSeconds? (Entry.total units entries) := by
  obtain ⟨hne, hitems⟩ := h
  rw [readDuration?]
  split
  · rename_i hnil
    exact absurd (hitems.eq_nil_iff.mpr hnil) hne
  · rw [hitems.readItems?, Option.bind_some, Entry.totalSeconds_items]

theorem exists_isDuration {units : DurationUnits} {raw : List Char} {seconds : Int64}
    (h : readDuration? units raw = some seconds) :
    ∃ entries, IsDuration (trimChars raw) entries := by
  rw [readDuration?] at h
  split at h
  · cases h
  · rename_i hne
    obtain ⟨items, hitems, -⟩ := Option.bind_eq_some_iff.mp h
    obtain ⟨entries, hentries⟩ := exists_itemized hitems
    exact ⟨entries, mt hentries.eq_nil_iff.mp hne, hentries⟩

/-- A text has a value only if, without the white space at its ends, it is one or more amounts of
units. There is one way at most to see it so, and it then has a value unless its total, rounded to
whole seconds, is not finite or greater than the largest 64-bit integer. -/
theorem durations_accepted_exactly_by_grammar (units : DurationUnits) (raw : List Char) :
    ((¬∃ entries, IsDuration (trimChars raw) entries) → readDuration? units raw = none) ∧
      ∀ entries, IsDuration (trimChars raw) entries →
        (∀ others, IsDuration (trimChars raw) others → others = entries) ∧
        let seconds := (Entry.total units entries).round
        readDuration? units raw =
          if seconds.isFinite = true ∧ ¬Float.ofInt Int64.maxValue.toInt < seconds then
            some seconds.toInt64
          else none := by
  constructor
  · intro hnone
    rw [Option.eq_none_iff_forall_ne_some]
    exact fun seconds hread => hnone (exists_isDuration hread)
  · intro entries h
    refine ⟨fun others hothers => hothers.2.unique h.2, ?_⟩
    rw [readDuration?_of_isDuration units h]
    exact wholeSeconds?_eq _

/-- Items without white space between them, one of them without unit, and points at either end of an
amount; and a text with one point too many. -/
theorem durations_accepted_exactly_by_grammar_with_points :
    let entries : List Entry := [⟨['1', '.'], .hour⟩, ⟨['3', '0'], .minute⟩, ⟨['.', '5'], .day⟩]
    let seconds := Float.round 48600.0
    (IsDuration (trimChars " 1.H30 .5d".toList) entries ∧
        readDuration? .calendar " 1.H30 .5d".toList =
          if seconds.isFinite = true ∧ ¬Float.ofInt Int64.maxValue.toInt < seconds then
            some seconds.toInt64
          else none) ∧
      (¬∃ entries, IsDuration (trimChars "1.2.3h".toList) entries) ∧
        readDuration? .calendar "1.2.3h".toList = none := by
  intro entries seconds
  have hduration : IsDuration (trimChars " 1.H30 .5d".toList) entries := by
    refine ⟨List.cons_ne_nil _ _, ?_⟩
    refine itemized_cons_iff.mpr ⟨by decide +kernel, ?_⟩
    refine itemized_cons_iff.mpr ⟨by decide +kernel, ?_⟩
    refine itemized_cons_iff.mpr ⟨by decide +kernel, ?_⟩
    exact itemized_nil_iff.mpr (by decide +kernel)
  have hpoints : ¬∃ entries, IsDuration (trimChars "1.2.3h".toList) entries := by
    rintro ⟨_ | ⟨e, others⟩, hne, hitems⟩
    · exact hne rfl
    · obtain ⟨⟨hfigures, hamount, -⟩, -⟩ := itemized_cons_iff.mp hitems
      rw [← hfigures] at hamount
      revert hamount
      decide +kernel
  have htotal : Entry.total .calendar entries = 48600.0 := by decide +kernel
  refine ⟨⟨hduration, ?_⟩, hpoints, (durations_accepted_exactly_by_grammar .calendar _).1 hpoints⟩
  have hread := ((durations_accepted_exactly_by_grammar .calendar _).2 entries hduration).2
  rwa [htotal] at hread

end FilterCompiler.Value
