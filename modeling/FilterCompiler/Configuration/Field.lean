import FilterCompiler.Configuration.Settings
import FilterCompiler.Json.Reading
import FilterCompiler.Text.Basic
import FilterCompiler.Text.LowerCase
import FilterCompiler.Value.Vocabulary

/-!
Descriptions of searchable fields, and their form in configuration documents.
-/

namespace FilterCompiler

inductive FieldKind where
  | exact
  | text
  | number
  | date
  | duration
deriving DecidableEq

inductive Permission where
  | everyone
  /-- Everyone who is not anonymous. -/
  | authenticated
  | users (names : List String)
deriving DecidableEq

/-- User names are compared in any case. -/
def Permission.permits (p : Permission) (user : Option String) : Bool :=
  match p with
  | .everyone => true
  | .authenticated => user.isSome
  | .users names => user.any fun name => (names.map Text.lower).contains (Text.lower name)

structure Field where
  /-- The names by which filters refer to the field. -/
  names : List String
  indexField : String
  kind : FieldKind
  /-- The word that marks documents without value. -/
  sentinel : Option String := none
  multiplier : Option Int64 := none
  sortable : Bool := false
  lowercase : Bool := false
  guarded : Bool := false
  constants : List Value.Constant := []
  /-- Whether the constants are listed from the lowest to the highest. -/
  ordered : Bool := false
  permission : Permission := .everyone
deriving DecidableEq

namespace Field

open FilterCompiler.Configuration

def validate (f : Field) : Except Fault Unit :=
  if f.names.all Text.isBlankText then .error (.unnamed f.indexField)
  else if Text.isBlankText f.indexField then .error (.unindexed f.names)
  else if f.multiplier = some 0 then .error (.zeroMultiplier f.indexField)
  else if f.ordered && (f.kind != .exact || f.constants.isEmpty) then
    .error (.orderWithoutConstants f.indexField)
  else .ok ()

/-- All fields are valid; otherwise the first that is not says why. -/
def validateAll : List Field → Except Fault Unit
  | [] => .ok ()
  | f :: fs =>
    match f.validate with
    | .error fault => .error fault
    | .ok _ => validateAll fs

end Field

namespace Configuration

open Json

/-- An alternative that holds nothing. -/
def bare? {α : Type} (held : Option Json) (a : α) : Option α :=
  match held with
  | none | some .null => some a
  | _ => none

def kind? (j : Json) : Option FieldKind := do
  match ← j.alternative? with
  | ("exact", held) => bare? held .exact
  | ("text", held) => bare? held .text
  | ("number", held) => bare? held .number
  | ("date", held) => bare? held .date
  | ("duration", held) => bare? held .duration
  | _ => none

def permission? (j : Json) : Option Permission := do
  match ← j.alternative? with
  | ("everyone", held) => bare? held .everyone
  | ("authenticated", held) => bare? held .authenticated
  | ("users", some names) => (list? text? names).map .users
  | _ => none

def constant? (j : Json) : Option Value.Constant := do
  match ← j.record? ["id", "name"] with
  | [id, name] => do
      let id ← required? text? id
      let name ← required? text? name
      some ⟨id, name⟩
  | _ => none

def fieldParts : List String := [
  "clause_names", "index_field", "kind", "empty_index_value", "multiplier", "sortable", "lowercase",
  "visibility_guard", "constants", "ordered", "permission"]

def field? (j : Json) : Option Field := do
  match ← j.record? fieldParts with
  | [names, indexField, kind, sentinel, multiplier, sortable, lowercase, guarded, constants,
      ordered, permission] => do
      let names ← required? (list? text?) names
      let indexField ← required? text? indexField
      let kind ← required? kind? kind
      let sentinel ← optional? none (nullable? text?) sentinel
      let multiplier ← optional? none (nullable? fun j => j.integer?.bind Text.int64?) multiplier
      let sortable ← optional? false bool? sortable
      let lowercase ← optional? false bool? lowercase
      let guarded ← optional? false bool? guarded
      let constants ← optional? [] (list? constant?) constants
      let ordered ← optional? false bool? ordered
      let permission ← optional? .everyone permission? permission
      some { names, indexField, kind, sentinel, multiplier, sortable, lowercase, guarded, constants,
             ordered, permission }
  | _ => none

def fields? (j : Json) : Option (List Field) := do
  match ← j.record? ["fields"] with
  | [fields] => required? (list? field?) fields
  | _ => none

/-- Fields that have been read are also checked. -/
def checkFields (fields : Option (List Field)) : Except Fault (List Field) :=
  match fields with
  | none => .error .unreadableFields
  | some fields => (Field.validateAll fields).map fun _ => fields

def readFields (text : String) : Except Fault (List Field) :=
  checkFields ((parse? text).bind fields?)

end Configuration

end FilterCompiler
