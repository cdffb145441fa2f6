import FilterCompiler.Filter.Argument
import FilterCompiler.Filter.Basic
import FilterCompiler.Outcome
import FilterCompiler.Value.Encoding

/-!
Comparison of measured values, which the index answers by ranges of words.
-/

namespace FilterCompiler.Rule

structure Comparison where
  measure : Value.Measure
  /-- The word of fields without value, which no range may pick up. -/
  sentinel : Option String
  /-- Whether the empty marker is a bound that does not restrict, or no bound at all. -/
  emptyIsOpen : Bool

namespace Comparison

def ofBounds? (field : String) (operator : Operator) (b : Value.Bounds) : Option WordRange :=
  match operator with
  | .less => some (.below field b.lower false)
  | .lessOrEqual => some (.below field b.upper true)
  | .greater => some (.above field b.upper false)
  | .greaterOrEqual => some (.above field b.lower true)
  | _ => none

def range? (c : Comparison) (field : String) (operator : Operator) (l : Literal) :
    Option WordRange :=
  if l.isEmpty then if c.emptyIsOpen then some (.unbounded field) else none
  else (c.measure.bounds? l).bind (ofBounds? field operator)

def handles (operator : Operator) : Bool := operator.isRelational

/-- Exactly one of the literals has to give a bound. -/
def outcome (c : Comparison) (field : String) (operator : Operator) : Argument → Outcome
  | .single literals =>
    if handles operator then
      match literals.filterMap (c.range? field operator), c.sentinel with
      | [range], none => ⟨.range range, false⟩
      | [range], some word =>
        ⟨.boolean [(.must, .range range), (.mustNot, .ofTerm field word)], false⟩
      | _, _ => .nothing
    else .nothing
  | .list _ | .empty => .nothing

end Comparison

end FilterCompiler.Rule
