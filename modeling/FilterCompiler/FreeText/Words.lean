import FilterCompiler.Text.Alphanumeric
import FilterCompiler.Text.LowerCase

/-!
The words of a text as the index knows them: maximal runs of letters and digits, in lower case,
without the words that are too common to search for.
-/

namespace FilterCompiler.FreeText

/-- The maximal runs of characters with the property `p`; `run` is the
one being collected, in reverse. -/
def runsAfter (p : Char → Bool) (run : List Char) : List Char → List (List Char)
  | [] => if run.isEmpty then [] else [run.reverse]
  | c :: cs =>
    if p c then runsAfter p (c :: run) cs
    else if run.isEmpty then runsAfter p [] cs
    else run.reverse :: runsAfter p [] cs

def runs (p : Char → Bool) (cs : List Char) : List (List Char) := runsAfter p [] cs

structure Analyzer where
  stopWords : List String

def englishStopWords : List String := [
  "a", "an", "and", "are", "as", "at", "be", "but", "by", "for", "if", "in", "into", "is", "it",
  "no", "not", "of", "on", "or", "such", "that", "the", "their", "then", "there", "these", "they",
  "this", "to", "was", "will", "with"]

namespace Analyzer

def english : Analyzer := ⟨englishStopWords⟩

/-- Keeps every word. -/
def complete : Analyzer := ⟨[]⟩

def words (a : Analyzer) (text : String) : List String :=
  let lowered := (runs Text.isAlphanumeric text.toList).map fun run =>
    String.ofList (Text.lowerChars run)
  lowered.filter fun word => !a.stopWords.contains word

end Analyzer

end FilterCompiler.FreeText
