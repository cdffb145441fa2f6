import FilterCompiler.Filter.Basic
import FilterCompiler.Rule.Comparison
import FilterCompiler.Rule.Membership
import FilterCompiler.Rule.Ranking
import FilterCompiler.Rule.Wording

/-!
The rules by which a field answers conditions, each for some of the operators.
-/

namespace FilterCompiler

inductive Rule where
  | membership (m : Rule.Membership)
  | comparison (c : Rule.Comparison)
  | ranking (r : Rule.Ranking)
  | wording (w : Rule.Wording)

namespace Rule

def handles : Rule → Operator → Bool
  | .membership _, operator => Membership.handles operator
  | .comparison _, operator => Comparison.handles operator
  | .ranking _, operator => Ranking.handles operator
  | .wording _, operator => Wording.handles operator

def outcome (rule : Rule) (field : String) (operator : Operator) (a : Argument) : Outcome :=
  match rule with
  | .membership m => m.outcome field operator a
  | .comparison c => c.outcome field operator a
  | .ranking r => r.outcome field operator a
  | .wording w => w.outcome field operator a

end Rule

/-- How conditions on a field of the index are answered: by the first rule that handles the
operator, and only in documents that show the field if it is guarded. -/
structure Searcher where
  indexField : String
  rules : List Rule
  resolver : Resolver
  guarded : Bool

def Searcher.outcome (s : Searcher) (caller : Caller) (c : Condition) : Outcome :=
  let found :=
    match s.rules.find? (·.handles c.operator) with
    | none => .nothing
    | some rule =>
      rule.outcome s.indexField c.operator (s.resolver.argument caller c.field c.operand)
  if s.guarded then found.guarded s.indexField else found

end FilterCompiler
