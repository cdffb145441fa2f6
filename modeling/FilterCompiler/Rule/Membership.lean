import FilterCompiler.Filter.Argument
import FilterCompiler.Filter.Basic
import FilterCompiler.Outcome

/-!
Equality and membership. A field without value is marked in the index by a word of its own, the
sentinel, or else by not being listed among the fields that hold one.
-/

namespace FilterCompiler.Rule

structure Membership where
  /-- The words that a literal can stand for. -/
  values : Literal → List String
  sentinel : Option String

namespace Membership

def absent (m : Membership) (field : String) : Query :=
  match m.sentinel with
  | some word => .ofTerm field word
  | none => .boolean [(.mustNot, .present field), (.must, .visible field)]

def present (m : Membership) (field : String) : Query :=
  match m.sentinel with
  | some word => .boolean [(.mustNot, .ofTerm field word), (.must, .visible field)]
  | none => .present field

/-- The words of all literals in order. For the empty marker this is the sentinel, or
`none` if there is no such word. -/
def words (m : Membership) (literals : List Literal) : List (Option String) :=
  literals.flatMap fun l => if l.isEmpty then [m.sentinel] else (m.values l).map some

def wordQuery (m : Membership) (field : String) : Option String → Query
  | some word => .ofTerm field word
  | none => m.absent field

def anyOf (m : Membership) (field : String) (literals : List Literal) : Outcome :=
  match m.words literals with
  | [] => .nothing
  | [word] => ⟨m.wordQuery field word, false⟩
  | words => ⟨.boolean (words.map fun word => (.should, m.wordQuery field word)), false⟩

/-- A value that is none of the words. -/
def noneOf (m : Membership) (field : String) (literals : List Literal) : Outcome :=
  match (m.words literals).filterMap id with
  | [] => ⟨m.present field, false⟩
  | words =>
    ⟨.boolean ((.must, m.present field) ::
      words.map (fun word => (.mustNot, .ofTerm field word)) ++ [(.must, .visible field)]), false⟩

def handles : Operator → Bool
  | .equals | .notEquals | .among | .notAmong | .is | .isNot => true
  | _ => false

def outcome (m : Membership) (field : String) (operator : Operator) : Argument → Outcome
  | .single literals =>
    match operator with
    | .equals | .is => m.anyOf field literals
    | .notEquals | .isNot => m.noneOf field literals
    | _ => .nothing
  | .list literals =>
    match operator with
    | .among => m.anyOf field literals
    | .notAmong => m.noneOf field literals
    | _ => .nothing
  | .empty =>
    match operator with
    | .equals | .is | .among => ⟨m.absent field, false⟩
    | .notEquals | .isNot | .notAmong => ⟨m.present field, false⟩
    | _ => .nothing

end Membership

end FilterCompiler.Rule
