import FilterCompiler.Filter.Argument
import FilterCompiler.Filter.Basic
import FilterCompiler.FreeText.Reading
import FilterCompiler.Outcome

/-!
Search for wording: the operand is a free-text expression. One that cannot be read, or that has no
words, finds nothing, whether it is asked for or excluded.
-/

namespace FilterCompiler.Rule

structure Wording where
  analyzer : FreeText.Analyzer
  /-- Whether the rule itself sees to fields without value. -/
  handlesEmpty : Bool

namespace Wording

def expression? (w : Wording) (field : String) (l : Literal) : Option Query := do
  let text ← l.text?
  if Text.isBlankText text then none
  else match FreeText.Target.parse ⟨field, w.analyzer⟩ text with
    | .ok q => if q.isNothing then none else some q
    | .error _ => none

def absent (field : String) : Query :=
  .boolean [(.mustNot, .present field), (.must, .visible field)]

def ofAbsence (field : String) : Operator → Outcome
  | .like | .is => ⟨absent field, false⟩
  | .notLike | .isNot => ⟨.present field, false⟩
  | _ => .nothing

/-- One expression, asked for or excluded. -/
def ofOne (w : Wording) (field : String) (positive : Bool) (l : Literal) : Outcome :=
  match w.expression? field l with
  | none => .nothing
  | some q =>
    let clause := (if positive then Occurrence.must else .mustNot, q)
    let guards :=
      if w.handlesEmpty then [(.must, .present field), (.must, .visible field)] else []
    ⟨.boolean (clause :: guards), false⟩

/-- The clause of one of several expressions, if it has one; `none`
when the expression finds nothing. -/
def clause? (w : Wording) (field : String) (positive : Bool) (l : Literal) : Option Clauses :=
  if l.isEmpty then
    if !w.handlesEmpty then some []
    else if positive then some [(.should, absent field)]
    else some [(.must, .present field)]
  else (w.expression? field l).map fun q => [(if positive then .should else .mustNot, q)]

/-- Several expressions, any of which is asked for or all of which are excluded. A single one that
finds nothing spoils them all. -/
def ofSeveral (w : Wording) (field : String) (positive : Bool) (literals : List Literal) :
    Outcome :=
  match literals.mapM (w.clause? field positive) with
  | none => .nothing
  | some clauses =>
    if clauses.flatten.isEmpty then .nothing
    else ⟨.boolean [(.must, .boolean clauses.flatten)], false⟩

def handles : Operator → Bool
  | .like | .notLike | .is | .isNot => true
  | _ => false

def ofLiterals (w : Wording) (field : String) (positive : Bool) : List Literal → Outcome
  | [] => .nothing
  | [.empty] => ofAbsence field (if positive then .like else .notLike)
  | [l] => w.ofOne field positive l
  | ls => w.ofSeveral field positive ls

def outcome (w : Wording) (field : String) (operator : Operator) : Argument → Outcome
  | .single literals =>
    match operator with
    | .like => w.ofLiterals field true literals
    | .notLike => w.ofLiterals field false literals
    | _ => .nothing
  | .list _ => .nothing
  | .empty => ofAbsence field operator

end Wording

end FilterCompiler.Rule
