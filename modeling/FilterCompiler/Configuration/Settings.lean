import FilterCompiler.Json.Reading
import FilterCompiler.Text.Basic

/-!
Settings of a compilation: how many clauses a boolean may have, and whether booleans that only
exclude are given something to exclude from. With them comes what can be wrong with a configuration,
be it of the settings or of the fields.
-/

namespace FilterCompiler.Configuration

inductive Fault where
  | unreadableSettings
  | unreadableFields
  | zeroLimit
  | unnamed (indexField : String)
  | unindexed (names : List String)
  | zeroMultiplier (indexField : String)
  | orderWithoutConstants (indexField : String)
deriving DecidableEq

namespace Fault

def reason : Fault → String
  | .unreadableSettings => "invalid builder config"
  | .unreadableFields => "invalid field config"
  | .zeroLimit => "max_clause_count must be greater than zero"
  | .unnamed field => String.join ["field ", field, " has no clause name"]
  | .unindexed names => String.join ["field ", ",".intercalate names, " has no index field"]
  | .zeroMultiplier field => String.join ["field ", field, " has a zero multiplier"]
  | .orderWithoutConstants field =>
    String.join ["field ", field, " is ordered but has no constants"]

def message (f : Fault) : String := String.join ["Configuration error: ", f.reason]

end Fault

end FilterCompiler.Configuration

namespace FilterCompiler

structure Settings where
  maxClauses : Nat
  anchors : Bool
deriving DecidableEq

namespace Settings

open FilterCompiler.Configuration FilterCompiler.Json

def defaultMaxClauses : Nat := 1024

def default : Settings := ⟨defaultMaxClauses, true⟩

/-- Sizes have 64 bits. -/
def sizeBound : Nat := 1 <<< 64

def size? (j : Json) : Option Nat := do
  let n ← j.integer?
  if 0 ≤ n ∧ n < sizeBound then some n.toNat else none

def ofJson? (j : Json) : Option Settings := do
  match ← j.record? ["max_clause_count", "add_match_all_to_negative_queries"] with
  | [maxClauses, anchors] =>
    let maxClauses ← optional? default.maxClauses size? maxClauses
    let anchors ← optional? default.anchors bool? anchors
    some ⟨maxClauses, anchors⟩
  | _ => none

def read (text : String) : Except Fault Settings :=
  match (parse? text).bind ofJson? with
  | none => .error .unreadableSettings
  | some s => if s.maxClauses = 0 then .error .zeroLimit else .ok s

/-- Default settings with a limit given as a text, such as an environment variable. A text that is
not a positive number is ignored. -/
def withLimitText (text : Option String) : Settings :=
  match text.bind fun t => Text.readNatBelow? sizeBound (Text.trimChars t.toList) with
  | some (limit + 1) => ⟨limit + 1, true⟩
  | _ => default

end Settings

end FilterCompiler
