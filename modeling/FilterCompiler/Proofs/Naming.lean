import FilterCompiler.Proofs.LowerCase
import FilterCompiler.Value.Vocabulary

/-!
Constants and their names. A text loses the white space at its ends before it is compared
with the names of constants, and the names do not: a constant is found by its own name if
the name has no white space there, and otherwise by no text at all, unless the text is a
number and taken for an identifier.
-/

namespace FilterCompiler

namespace Text

variable {cs run rest : List Char} {p : Char → Bool}

/-- Characters of one class that go on for as long as they can before `rest`. -/
structure IsRun (p : Char → Bool) (run rest : List Char) : Prop where
  all : ∀ c ∈ run, p c = true
  ends : rest.head?.any p = false

theorem IsRun.takeWhile_eq (h : IsRun p run rest) : (run ++ rest).takeWhile p = run := by
  rw [List.takeWhile_append_of_pos h.all]
  cases rest with
  | nil => exact List.append_nil run
  | cons c rest =>
      have hc : p c = false := h.ends
      rw [List.takeWhile_cons, hc]
      exact List.append_nil run

theorem IsRun.dropWhile_eq (h : IsRun p run rest) : (run ++ rest).dropWhile p = rest := by
  have hboth : (run ++ rest).takeWhile p ++ (run ++ rest).dropWhile p = run ++ rest :=
    List.takeWhile_append_dropWhile
  rw [h.takeWhile_eq] at hboth
  exact List.append_cancel_left hboth

theorem isRun_takeWhile (p : Char → Bool) (cs : List Char) :
    IsRun p (cs.takeWhile p) (cs.dropWhile p) := by
  refine ⟨List.all_eq_true.mp List.all_takeWhile, ?_⟩
  have hhead := List.head?_dropWhile_not p cs
  cases hc : (cs.dropWhile p).head? with
  | none => rfl
  | some c =>
      rw [hc] at hhead
      exact hhead

theorem head?_trimStart (cs : List Char) : (trimStart cs).head?.any isBlank = false :=
  (isRun_takeWhile isBlank cs).ends

theorem trimStart_eq_self (hhead : cs.head?.any isBlank = false) : trimStart cs = cs := by
  have hrun : IsRun isBlank [] cs := ⟨List.forall_mem_nil _, hhead⟩
  exact hrun.dropWhile_eq

/-- The end of a text is trimmed as the start of the text read backwards. -/
theorem trimEnd_eq_reverse (cs : List Char) : trimEnd cs = (trimStart cs.reverse).reverse := rfl

theorem trimEnd_cons {c : Char} (hc : isBlank c = false) (cs : List Char) :
    trimEnd (c :: cs) = c :: trimEnd cs := by
  rw [trimEnd, trimEnd, List.reverse_cons, List.dropWhile_append]
  split
  · rename_i hblank
    rw [List.isEmpty_iff.mp hblank, List.dropWhile_cons, hc]
    rfl
  · rw [List.reverse_append]
    rfl

/-- Neither the first nor the last character is white space. -/
def IsTrimmed (cs : List Char) : Prop :=
  cs.head?.any isBlank = false ∧ cs.getLast?.any isBlank = false

theorem trimChars_isTrimmed (cs : List Char) : IsTrimmed (trimChars cs) := by
  constructor
  · have hstart := head?_trimStart cs
    rw [trimChars]
    cases hcs : trimStart cs with
    | nil => rfl
    | cons c rest =>
        rw [hcs, List.head?_cons, Option.any_some] at hstart
        rw [trimEnd_cons hstart]
        exact hstart
  · rw [trimChars, trimEnd_eq_reverse, List.getLast?_reverse]
    exact head?_trimStart _

theorem IsTrimmed.trimChars_eq (h : IsTrimmed cs) : trimChars cs = cs := by
  obtain ⟨hhead, hlast⟩ := h
  rw [← List.head?_reverse] at hlast
  rw [trimChars, trimStart_eq_self hhead, trimEnd_eq_reverse, trimStart_eq_self hlast,
    List.reverse_reverse]

/-- White space at the ends of a text is not touched by lower-casing. -/
theorem isTrimmed_lowerChars_iff (cs : List Char) : IsTrimmed (lowerChars cs) ↔ IsTrimmed cs := by
  have hhead : (lowerChars cs).head?.any isBlank = cs.head?.any isBlank :=
    head?_inRanges_lowerChars lowerKeeps_blankRanges cs
  have hlast : (lowerChars cs).getLast?.any isBlank = cs.getLast?.any isBlank :=
    getLast?_inRanges_lowerChars lowerKeeps_blankRanges cs
  rw [IsTrimmed, IsTrimmed, hhead, hlast]

/-- Only a text without white space at its ends is equal to a trimmed text up to case. -/
theorem trim_eq_self_of_lower {name text : String} (h : lower name = lower (trim text)) :
    trim name = name := by
  have hchars : lowerChars name.toList = lowerChars (trimChars text.toList) := by
    simpa [lower, trim] using congrArg String.toList h
  have htrimmed : IsTrimmed name.toList := by
    rw [← isTrimmed_lowerChars_iff, hchars, isTrimmed_lowerChars_iff]
    exact trimChars_isTrimmed text.toList
  rw [trim, htrimmed.trimChars_eq, String.ofList_toList]

end Text

namespace Value

/-- Names that are equal up to case and the white space at their ends. -/
def SameName (a b : String) : Prop := Text.lower (Text.trim a) = Text.lower (Text.trim b)

instance (a b : String) : Decidable (SameName a b) :=
  inferInstanceAs (Decidable (Text.lower (Text.trim a) = Text.lower (Text.trim b)))

namespace Vocabulary

variable {v : Vocabulary} {id text : String}

theorem mem_named_iff : id ∈ v.named text ↔
    ∃ c ∈ v.constants, c.id = id ∧ Text.lower c.name = Text.lower text := by
  simp only [named, List.mem_map, List.mem_filter, beq_iff_eq]
  constructor
  · rintro ⟨c, ⟨hc, hname⟩, hid⟩
    exact ⟨c, hc, hid, hname⟩
  · rintro ⟨c, hc, hid, hname⟩
    exact ⟨c, ⟨hc, hname⟩, hid⟩

/-- What a text finds as a name. -/
theorem values_text_of_named (h : v.named (Text.trim text) ≠ []) :
    v.values (.text text) = v.named (Text.trim text) := by
  simp [values, h]

theorem named_sublist (v : Vocabulary) (text : String) :
    (v.named text).Sublist (v.constants.map (·.id)) := List.filter_sublist.map _

theorem identified_sublist (v : Vocabulary) (id : String) :
    (v.identified id).Sublist (v.constants.map (·.id)) := by
  rw [identified]
  split
  · rename_i hany
    obtain ⟨c, hc, hid⟩ := List.any_eq_true.mp hany
    rw [← beq_iff_eq.mp hid]
    exact List.singleton_sublist.mpr (List.mem_map_of_mem hc)
  · exact List.nil_sublist _

/-- The constants whose names have no white space at their ends. -/
def trimmed (v : Vocabulary) : Vocabulary :=
  ⟨v.constants.filter fun c => Text.trim c.name == c.name⟩

/-- The other constants are not found by name. -/
theorem trimmed_named (v : Vocabulary) (text : String) :
    v.trimmed.named (Text.trim text) = v.named (Text.trim text) := by
  have hname : ∀ c ∈ v.constants,
      (Text.lower c.name == Text.lower (Text.trim text) && Text.trim c.name == c.name) =
        (Text.lower c.name == Text.lower (Text.trim text)) := by
    intro c _
    rw [Bool.and_eq_left_iff_imp]
    intro hsame
    exact beq_iff_eq.mpr (Text.trim_eq_self_of_lower (beq_iff_eq.mp hsame))
  rw [named, named, trimmed, List.filter_filter, List.filter_congr hname]

/-- A constant without white space at the ends of its name is found by that name, and so are all
others that have the name in any case. Whatever a text finds, it finds in the order of the
constants. Where a name does have white space at its ends, the constant might as well not be there:
no text finds it, except for a number that is taken for its identifier. -/
theorem trimmed_names_find_constants (v : Vocabulary) :
    (∀ c ∈ v.constants, Text.trim c.name = c.name →
      c.id ∈ v.values (.text c.name) ∧
        ∀ id ∈ v.values (.text c.name), ∃ d ∈ v.constants, d.id = id ∧ SameName d.name c.name) ∧
      (∀ text, (v.values (.text text)).Sublist (v.constants.map (·.id))) ∧
      ∀ text, Text.readInt64? (Text.trim text).toList = none →
        v.values (.text text) = v.trimmed.values (.text text) := by
  refine ⟨?_, ?_, ?_⟩
  · intro c hc htrimmed
    have hown : c.id ∈ v.named (Text.trim c.name) :=
      mem_named_iff.mpr ⟨c, hc, rfl, by rw [htrimmed]⟩
    rw [values_text_of_named (List.ne_nil_of_mem hown)]
    refine ⟨hown, ?_⟩
    intro id hid
    obtain ⟨d, hd, rfl, hname⟩ := mem_named_iff.mp hid
    refine ⟨d, hd, rfl, ?_⟩
    rw [SameName, Text.trim_eq_self_of_lower hname, hname]
  · intro text
    rw [values]
    split
    · exact v.identified_sublist _
    · exact v.named_sublist _
  · intro text hnumber
    simp only [values, trimmed_named, hnumber, Option.isSome_none, Bool.and_false,
      Bool.false_eq_true, if_false]

/-- Two constants share a name, and one has white space around its name. -/
theorem trimmed_names_find_constants_of_priority :
    let major : Constant := ⟨"40", "MAJOR"⟩
    let v : Vocabulary := ⟨[⟨"1", "Blocker"⟩, ⟨"2", "Major"⟩, ⟨"3", " Minor "⟩, major]⟩
    (major ∈ v.constants ∧ Text.trim major.name = major.name ∧
        v.values (.text major.name) = ["2", "40"] ∧ major.id ∈ v.values (.text major.name)) ∧
      Text.readInt64? (Text.trim " Minor ").toList = none ∧
      v.trimmed = ⟨[⟨"1", "Blocker"⟩, ⟨"2", "Major"⟩, major]⟩ ∧
      v.values (.text " Minor ") = v.trimmed.values (.text " Minor ") := by
  intro major v
  have hmember : major ∈ v.constants := by decide
  have htrimmed : Text.trim major.name = major.name := by decide +kernel
  have hnumber : Text.readInt64? (Text.trim " Minor ").toList = none := by decide +kernel
  have hconstants : v.trimmed.constants = [⟨"1", "Blocker"⟩, ⟨"2", "Major"⟩, major] := by
    decide +kernel
  obtain ⟨hfound, -, hlost⟩ := trimmed_names_find_constants v
  exact ⟨⟨hmember, htrimmed, by decide +kernel, (hfound major hmember htrimmed).1⟩, hnumber,
    congrArg Vocabulary.mk hconstants, hlost " Minor " hnumber⟩

/-- A name with white space around it does not find its constant; if it is a number, it can find
another constant, of which it is the identifier. -/
theorem not_names_find_constants :
    let blocker : Constant := ⟨"1", " Blocker "⟩
    let five : Constant := ⟨"9", " 5 "⟩
    let v : Vocabulary := ⟨[blocker, five, ⟨"5", "Major"⟩]⟩
    (∀ c ∈ v.constants, Text.isBlankText c.name = false) ∧
      (blocker ∈ v.constants ∧ blocker.id ∉ v.values (.text blocker.name)) ∧
      five ∈ v.constants ∧ "5" ∈ v.values (.text five.name) ∧
      ¬∃ d ∈ v.constants, d.id = "5" ∧ SameName d.name five.name := by
  decide +kernel

end Vocabulary

end Value

end FilterCompiler
