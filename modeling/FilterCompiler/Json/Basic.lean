/-!
JSON documents as values. Two things that a document can write have no counterpart among texts and
integers, and the value says so: a string with an unpaired surrogate, and a number with a fraction,
an exponent or a negative zero.
-/

namespace FilterCompiler

inductive Json where
  | null
  | bool (value : Bool)
  | integer (value : Int)
  /-- A number that is not written as an integer. -/
  | decimal
  /-- `none` when the string escapes half of a surrogate pair. -/
  | string (value : Option String)
  | array (elements : List Json)
  /-- Every entry as written, also those that repeat a key. -/
  | object (entries : List (Option String × Json))

namespace Json

def bool? : Json → Option Bool
  | .bool b => some b
  | _ => none

def integer? : Json → Option Int
  | .integer n => some n
  | _ => none

def text? : Json → Option String
  | .string s => s
  | _ => none

def list? {α : Type} (element? : Json → Option α) : Json → Option (List α)
  | .array elements => elements.mapM element?
  | _ => none

/-- A value that may be written as null. -/
def nullable? {α : Type} (value? : Json → Option α) : Json → Option (Option α)
  | .null => some none
  | j => (value? j).map some

/-- The values under one key. A key that is not a text could be any key, so it has no answer. -/
def occurrences? (key : String) (entries : List (Option String × Json)) : Option (List Json) :=
  entries.foldr
    (fun entry found => do
      let values ← found
      let name ← entry.1
      if name = key then some (entry.2 :: values) else some values)
    (some [])

/-- The value of each named part of a record, where it is given. A record is an
object, in which other keys are passed over and none of the named ones may repeat, or
an array of the parts in order. -/
def record? (names : List String) : Json → Option (List (Option Json))
  | .object entries =>
    names.mapM fun name => do
      match ← occurrences? name entries with
      | [] => some none
      | [value] => some (some value)
      | _ => none
  | .array elements =>
    if names.length < elements.length then none
    else some ((List.range names.length).map fun i => elements[i]?)
  | _ => none

/-- A part of a record that must be given. -/
def required? {α : Type} (value? : Json → Option α) (part : Option Json) : Option α :=
  part.bind value?

/-- A part of a record that has a value when it is not given. -/
def optional? {α : Type} (default : α) (value? : Json → Option α) (part : Option Json) : Option α :=
  match part with
  | none => some default
  | some j => value? j

/-- A named alternative: its bare name, or an object with its name as the only
key and what it holds below it. -/
def alternative? : Json → Option (String × Option Json)
  | .string (some name) => some (name, none)
  | .object [(some name, held)] => some (name, some held)
  | _ => none

end Json

end FilterCompiler
