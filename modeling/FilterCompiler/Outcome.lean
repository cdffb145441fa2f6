import FilterCompiler.Query.Basic

/-!
Outcomes: queries whose negation is still to be placed. Where an outcome ends up decides how it is
negated, so the flag stays beside the query until then.
-/

namespace FilterCompiler

structure Outcome where
  query : Query
  negated : Bool := false

namespace Outcome

/-- The outcome that no document satisfies. -/
def nothing : Outcome := ⟨.nothing, false⟩

def isNothing (o : Outcome) : Bool := !o.negated && o.query.isNothing

def negate (o : Outcome) : Outcome := { o with negated := !o.negated }

/-- Negation that leaves the outcome without documents as it is. -/
def complement (o : Outcome) : Outcome := if o.isNothing then o else o.negate

/-- The outcome as a query of its own. -/
def toQuery (o : Outcome) : Query := if o.negated then .excluding o.query else o.query

/-- As a clause that has to hold, the negation goes into the occurrence. -/
def required (o : Outcome) : Occurrence × Query :=
  (if o.negated then .mustNot else .must, o.query)

/-- As an alternative, a negated query has to be wrapped: it must not exclude from the others. -/
def alternative (o : Outcome) : Occurrence × Query := (.should, o.toQuery)

def conjunction (os : List Outcome) : Outcome := ⟨.boolean (os.map required), false⟩

def disjunction (os : List Outcome) : Outcome := ⟨.boolean (os.map alternative), false⟩

/-- Outcomes of the same question asked in several ways. Those without documents add nothing, and
one that is left alone stays as it is. -/
def merge (os : List Outcome) : Outcome :=
  match os.filter (!·.isNothing) with
  | [] => nothing
  | [o] => o
  | os => disjunction os

/-- Restricts an outcome to the documents that show the field. -/
def guarded (field : String) (o : Outcome) : Outcome :=
  if o.isNothing then o else ⟨.boolean [o.required, (.must, .visible field)], false⟩

end Outcome

end FilterCompiler
