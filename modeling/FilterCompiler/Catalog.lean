import FilterCompiler.Configuration.Field
import FilterCompiler.Rule.Basic
import FilterCompiler.Value.Encoding

/-!
The catalog of searchable fields: which handlers answer conditions under a name, and for whom.
Several handlers may share a name.
-/

namespace FilterCompiler

/-- Answers conditions for the users it permits. -/
structure Handler where
  outcome : Caller → Condition → Outcome
  permits : Option String → Bool

/-- Handlers under their names in lower case, in the order in which they were registered. -/
structure Catalog where
  entries : List (String × Handler)

namespace Catalog

def empty : Catalog := ⟨[]⟩

/-- Registers a handler under a name; a blank name is no name. -/
def register (c : Catalog) (name : String) (h : Handler) : Catalog :=
  let key := Text.lower (Text.trim name)
  if key.isEmpty then c else ⟨c.entries ++ [(key, h)]⟩

def handlers (c : Catalog) (name : String) : List Handler :=
  (c.entries.filter (·.1 == Text.lower name)).map (·.2)

def handlersFor (c : Catalog) (user : Option String) (name : String) : List Handler :=
  (c.handlers name).filter (·.permits user)

/-- The handlers that a caller may use. -/
def handlersOf (c : Catalog) (caller : Caller) (name : String) : List Handler :=
  if caller.unrestricted then c.handlers name else c.handlersFor caller.user name

/-- The answers of those handlers to a condition. -/
def answers (c : Catalog) (caller : Caller) (condition : Condition) : List Outcome :=
  (c.handlersOf caller condition.field).map fun h => h.outcome caller condition

/-- The number of different names. -/
def size (c : Catalog) : Nat := (c.entries.map (·.1)).eraseDups.length

def isEmpty (c : Catalog) : Bool := c.entries.isEmpty

end Catalog

namespace Field

/-- Equality and order of a measured value. -/
def measured (f : Field) (measure : Value.Measure) (emptyIsOpen : Bool) : List Rule :=
  [.membership ⟨(Value.Encoding.measure measure).words, f.sentinel⟩,
    .comparison ⟨measure, f.sentinel, emptyIsOpen⟩]

def exactRules (f : Field) : List Rule :=
  if f.constants.isEmpty then
    [.membership ⟨(Value.Encoding.text f.lowercase).words, f.sentinel⟩]
  else
    let values := (Value.Encoding.constants ⟨f.constants⟩).words
    .membership ⟨values, f.sentinel⟩ ::
      (if f.ordered then [.ranking ⟨values, ⟨f.constants.map (·.id)⟩⟩] else [])

/-- The rules of a field by its kind; `now` is the present that dates are relative to. -/
def rules (f : Field) (now : Option Int) : List Rule :=
  match f.kind with
  | .exact => f.exactRules
  | .text => [.wording ⟨.english, true⟩]
  | .number => f.measured (.number (f.multiplier.getD 1) f.sortable) false
  | .date => f.measured (.date now) true
  | .duration => f.measured (.duration .calendar f.sortable) false

def handler (f : Field) (resolver : Resolver) (now : Option Int) : Handler where
  outcome := Searcher.outcome ⟨f.indexField, f.rules now, resolver, f.guarded⟩
  permits := f.permission.permits

end Field

/-- Fields that have been checked, each under all its names. -/
def Catalog.ofFields (fields : List Field) (resolver : Resolver) (now : Option Int) :
    Except Configuration.Fault Catalog :=
  (Field.validateAll fields).map fun _ =>
    fields.foldl
      (fun catalog f =>
        f.names.foldl (fun catalog name => catalog.register name (f.handler resolver now)) catalog)
      .empty

end FilterCompiler
