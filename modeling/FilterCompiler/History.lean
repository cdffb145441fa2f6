import FilterCompiler.Filter.Argument
import FilterCompiler.Filter.Basic
import FilterCompiler.Outcome
import FilterCompiler.Value.Encoding

/-!
Questions about the past. The history of changes answers a search with the numbers of documents, and
those are what the query asks for.
-/

namespace FilterCompiler

namespace History

structure ResolvedQualifier where
  relation : Relation
  values : List Literal

structure Search where
  /-- The field in lower case. -/
  field : String
  operator : Operator
  values : List String
  includeEmpty : Bool
  qualifiers : List ResolvedQualifier

end History

/-- A store of changes, with the ways to resolve operands and to encode literals by
which questions are put to it. -/
structure History where
  store : History.Search → List Nat
  resolver : Resolver
  /-- Words of literals by field in lower case; the latest comes first. -/
  encodings : List (String × (Literal → List String))

namespace History

def withEncoding (h : History) (field : String) (values : Literal → List String) : History :=
  { h with encodings := (Text.lower field, values) :: h.encodings }

/-- The words of a literal in a field; without an encoding they are its text. -/
def words (h : History) (field : String) (l : Literal) : List String :=
  match h.encodings.lookup field with
  | some values => values l
  | none => l.text?.toList

def resolve (h : History) (caller : Caller) (field : String) (qs : List Qualifier) :
    List ResolvedQualifier :=
  qs.map fun q => ⟨q.relation, h.resolver.literals caller field q.operand⟩

/-- The operator of the search: negation is left to the outcome. -/
def searchOperator? : Operator → Option Operator
  | .was | .wasNot => some .was
  | .wasAmong | .wasNotAmong => some .wasAmong
  | _ => none

/-- The search for past values; there is none without an operator that asks for them
or without anything to look for. -/
def pastSearch? (h : History) (caller : Caller) (p : PastValue) : Option Search := do
  let operator ← searchOperator? p.operator
  let field := Text.lower p.field
  let literals := h.resolver.literals caller p.field p.operand
  let values := (literals.filter (!·.isEmpty)).flatMap (h.words field)
  let includeEmpty := literals.any (·.isEmpty)
  if values.isEmpty && !includeEmpty then none
  else some ⟨field, operator, values, includeEmpty, h.resolve caller p.field p.qualifiers⟩

def changeSearch (h : History) (caller : Caller) (c : Change) : Search :=
  ⟨Text.lower c.field, .changed, [], false, h.resolve caller c.field c.qualifiers⟩

/-- Any of the documents found. -/
def documents (h : History) (s : Search) : Outcome :=
  match h.store s with
  | [] => .nothing
  | ids => ⟨.boolean (ids.map fun id => (.should, .document id)), false⟩

def past (h : History) (caller : Caller) (p : PastValue) : Outcome :=
  match h.pastSearch? caller p with
  | none => .nothing
  | some s => if p.operator.isNegative then (h.documents s).complement else h.documents s

def change (h : History) (caller : Caller) (c : Change) : Outcome :=
  h.documents (h.changeSearch caller c)

/-- The search by which a leaf of a filter asks the history, if it does. -/
def search? (h : History) (caller : Caller) : Filter → Option Search
  | .past p => h.pastSearch? caller p
  | .change c => some (h.changeSearch caller c)
  | _ => none

end History

end FilterCompiler
