import FilterCompiler.Filter.Argument
import FilterCompiler.Filter.Basic
import FilterCompiler.Outcome
import FilterCompiler.Value.Vocabulary

/-!
Comparison of constants by their place on a scale.
-/

namespace FilterCompiler.Rule

structure Ranking where
  /-- The identifiers that a literal can stand for. -/
  values : Literal → List String
  scale : Value.Scale

namespace Ranking

/-- The identifiers that compare with one of the scale as the operator says. -/
def compared? (r : Ranking) (operator : Operator) (id : String) : Option (List String) :=
  match operator with
  | .less => r.scale.below? id false
  | .lessOrEqual => r.scale.below? id true
  | .greater => r.scale.above? id false
  | .greaterOrEqual => r.scale.above? id true
  | _ => none

def query? (r : Ranking) (field : String) (operator : Operator) (id : String) : Option Query :=
  match r.compared? operator id with
  | none | some [] => none
  | some ids => some (.boolean (ids.map fun id => (.should, .ofTerm field id)))

def handles (operator : Operator) : Bool := operator.isRelational

def outcome (r : Ranking) (field : String) (operator : Operator) : Argument → Outcome
  | .single literals =>
    if handles operator then
      let ids := (literals.filter (!·.isEmpty)).flatMap r.values
      match ids.filterMap (r.query? field operator) with
      | [] => .nothing
      | [q] => ⟨q, false⟩
      | qs => ⟨.boolean (qs.map fun q => (.should, q)), false⟩
    else .nothing
  | .list _ | .empty => .nothing

end Ranking

end FilterCompiler.Rule
