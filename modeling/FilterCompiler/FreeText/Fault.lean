import FilterCompiler.Text.Printable

/-!
What can be wrong with a free-text expression. Positions count bytes from its start.
-/

namespace FilterCompiler.FreeText

inductive Fault where
  | unclosedQuote (position : Nat)
  | unexpectedToken (position : Nat)
  | missingTerm
  | expectedTerm (position : Nat)
  | nestedTooDeep (position : Nat)
  | unclosedGroup (position : Nat)
  | looseBoost (position : Nat)
  | invalidBoost (raw : String) (position : Nat)
  | invalidSimilarity (raw : String) (position : Nat)
  | similarityOutOfRange (position : Nat)
  | emptyTerm (position : Nat)
  | leadingWildcard (position : Nat)
  | invalidSlop (position : Nat)
  | textAfterPhrase (position : Nat)
deriving DecidableEq

/-- How deep groups may be nested. -/
def maxDepth : Nat := 256

namespace Fault

def near (position : Nat) : String := String.join [" near byte ", toString position]

def reason : Fault → String
  | .unclosedQuote p => String.join ["missing closing quote", near p]
  | .unexpectedToken p => String.join ["unexpected token", near p]
  | .missingTerm => "expected term but reached end of expression"
  | .expectedTerm p => String.join ["expected term", near p]
  | .nestedTooDeep p => String.join ["groups nested deeper than ", toString maxDepth, near p]
  | .unclosedGroup p => String.join ["missing closing ')' for group opened", near p]
  | .looseBoost p => String.join ["boost must follow a term", near p]
  | .invalidBoost raw p => String.join ["invalid boost ", Text.quoted raw, near p]
  | .invalidSimilarity raw p => String.join ["invalid fuzzy similarity ", Text.quoted raw, near p]
  | .similarityOutOfRange p => String.join ["fuzzy similarity must be >= 0 and < 1", near p]
  | .emptyTerm p => String.join ["empty term", near p]
  | .leadingWildcard p => String.join ["leading wildcard is not allowed", near p]
  | .invalidSlop p => String.join ["invalid phrase slop", near p]
  | .textAfterPhrase p => String.join ["unexpected text after phrase", near p]

def message (f : Fault) : String := String.join ["Text query parse error: ", f.reason]

end Fault

end FilterCompiler.FreeText
