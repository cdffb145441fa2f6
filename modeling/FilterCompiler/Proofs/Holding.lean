import Mathlib.Data.String.Basic
import FilterCompiler.Proofs.Matching

/-!
Documents of which the word in some field is known. The index compares words as texts, character by
character, and this alone decides what a range finds: encodings of numbers and dates have to bring
their values into that order.
-/

namespace FilterCompiler

/-- The words between the bounds, in the order of texts. -/
def WordRange.contains (r : WordRange) (word : String) : Bool :=
  r.lower.all (fun bound => if r.includeLower then bound ≤ word else bound < word) &&
    r.upper.all (fun bound => if r.includeUpper then word ≤ bound else word < bound)

namespace WordRange

theorem below_contains (field bound word : String) (inclusive : Bool) :
    (below field bound inclusive).contains word = true ↔
      if inclusive then word ≤ bound else word < bound := by
  cases inclusive <;> simp [contains, below]

theorem above_contains (field bound word : String) (inclusive : Bool) :
    (above field bound inclusive).contains word = true ↔
      if inclusive then bound ≤ word else bound < word := by
  cases inclusive <;> simp [contains, above]

end WordRange

namespace Document

/-- The document has one word in the field, and answers for it as the index does. -/
structure Holds (d : Document) (field word : String) : Prop where
  term_eq : ∀ text, d.term ⟨field, text⟩ = (text == word)
  range_eq : ∀ r : WordRange, r.field = field → d.range r = r.contains word

/-- A document with this word in this field, and without any other words. -/
def ofWord (field word : String) : Document :=
  { ofTerms fun t => t.field == field && t.text == word with
    range := fun r => r.field == field && r.contains word }

theorem ofWord_holds (field word : String) : (ofWord field word).Holds field word where
  term_eq text := by simp [ofWord, ofTerms]
  range_eq r hfield := by simp [ofWord, hfield]

variable {d : Document} {field word : String}

theorem Holds.ofTerm_matchedBy (hd : d.Holds field word) (text : String) :
    (Query.ofTerm field text).matchedBy d = (text == word) := hd.term_eq text

theorem Holds.range_matchedBy (hd : d.Holds field word) {r : WordRange} (hfield : r.field = field) :
    (Query.range r).matchedBy d = r.contains word := hd.range_eq r hfield

end Document

end FilterCompiler
