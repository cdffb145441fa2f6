/-!
Filters: trees of conditions on fields, together with the text in which they appear in messages. A
condition compares a field by one of the operators with an operand, which comes down to literals;
relations qualify a question about the past. In negation normal form every negation is pushed down
to the leaves, where at most one is left.
-/

namespace FilterCompiler

inductive Literal where
  | number (value : Int64)
  | text (value : String)
  /-- The marker that asks for the absence of a value. -/
  | empty
deriving DecidableEq

inductive Operand where
  | number (value : Int64)
  | text (value : String)
  | empty
  | list (members : List Operand)
  | call (function : String) (arguments : List String)

def Literal.isEmpty : Literal → Bool
  | .empty => true
  | _ => false

/-- The text of a literal; the empty marker has none. -/
def Literal.text? : Literal → Option String
  | .number n => some (toString n.toInt)
  | .text s => some s
  | .empty => none

namespace Operand

/-- A text between quotes. Only the quote itself is escaped. -/
def quote (s : String) : String :=
  String.ofList ('"' :: s.toList.flatMap (fun c => if c = '"' then ['\\', '"'] else [c]) ++ ['"'])

mutual

def render : Operand → String
  | .number n => toString n.toInt
  | .text s => quote s
  | .empty => "EMPTY"
  | .list members => "(" ++ ", ".intercalate (renderAll members) ++ ")"
  | .call function arguments => function ++ "(" ++ ", ".intercalate arguments ++ ")"

def renderAll : List Operand → List String
  | [] => []
  | o :: os => o.render :: renderAll os

end

/-- The empty marker itself, not a list or a function that comes down to it. -/
def isEmpty : Operand → Bool
  | .empty => true
  | _ => false

end Operand

inductive Operator where
  | equals
  | notEquals
  | among
  | notAmong
  | is
  | isNot
  | like
  | notLike
  | less
  | lessOrEqual
  | greater
  | greaterOrEqual
  | was
  | wasNot
  | wasAmong
  | wasNotAmong
  | changed
deriving DecidableEq, Repr

namespace Operator

def symbol : Operator → String
  | .equals => "="
  | .notEquals => "!="
  | .among => "in"
  | .notAmong => "not in"
  | .is => "is"
  | .isNot => "is not"
  | .like => "~"
  | .notLike => "!~"
  | .less => "<"
  | .lessOrEqual => "<="
  | .greater => ">"
  | .greaterOrEqual => ">="
  | .was => "was"
  | .wasNot => "was not"
  | .wasAmong => "was in"
  | .wasNotAmong => "was not in"
  | .changed => "changed"

def isRelational : Operator → Bool
  | .less | .lessOrEqual | .greater | .greaterOrEqual => true
  | _ => false

/-- Operators that ask for the complement of what another one asks for. -/
def isNegative : Operator → Bool
  | .notEquals | .notAmong | .isNot | .notLike | .wasNot | .wasNotAmong => true
  | _ => false

end Operator

inductive Relation where
  | after
  | before
  | during
  | onDay
  | byUser
  | fromValue
  | toValue
deriving DecidableEq, Repr

def Relation.symbol : Relation → String
  | .after => "after"
  | .before => "before"
  | .during => "during"
  | .onDay => "on"
  | .byUser => "by"
  | .fromValue => "from"
  | .toValue => "to"

/-- A comparison of a field's present value. -/
structure Condition where
  field : String
  operator : Operator
  operand : Operand

structure Qualifier where
  relation : Relation
  operand : Operand

/-- A question about the values that a field had. -/
structure PastValue where
  field : String
  operator : Operator
  operand : Operand
  qualifiers : List Qualifier

/-- The question whether a field changed at all. -/
structure Change where
  field : String
  qualifiers : List Qualifier

inductive Filter where
  | condition (c : Condition)
  | all (members : List Filter)
  | any (members : List Filter)
  | not (inner : Filter)
  | past (p : PastValue)
  | change (c : Change)

def Condition.render (c : Condition) : String :=
  c.field ++ " " ++ c.operator.symbol ++ " " ++ c.operand.render

def Qualifier.render (q : Qualifier) : String :=
  " " ++ q.relation.symbol ++ " " ++ q.operand.render

def renderQualifiers (qs : List Qualifier) : String :=
  String.join (qs.map Qualifier.render)

def PastValue.render (p : PastValue) : String :=
  p.field ++ " " ++ p.operator.symbol ++ " " ++ p.operand.render ++ renderQualifiers p.qualifiers

def Change.render (c : Change) : String :=
  c.field ++ " " ++ Operator.changed.symbol ++ renderQualifiers c.qualifiers

namespace Filter

mutual

def render : Filter → String
  | .condition c => c.render
  | .all members => "(" ++ " AND ".intercalate (renderAll members) ++ ")"
  | .any members => "(" ++ " OR ".intercalate (renderAll members) ++ ")"
  | .not inner => "NOT " ++ inner.render
  | .past p => p.render
  | .change c => c.render

def renderAll : List Filter → List String
  | [] => []
  | f :: fs => f.render :: renderAll fs

end

/-- Leaves ask the index or the history; everything else only combines them. -/
def isLeaf : Filter → Bool
  | .condition _ | .past _ | .change _ => true
  | .all _ | .any _ | .not _ => false

mutual

/-- The normal form of a filter that stands under an odd number of negations when `negated` holds,
and under an even number otherwise. -/
def normalizeUnder (negated : Bool) : Filter → Filter
  | .all members =>
    if negated then .any (normalizeAll negated members) else .all (normalizeAll negated members)
  | .any members =>
    if negated then .all (normalizeAll negated members) else .any (normalizeAll negated members)
  | .not inner => normalizeUnder (!negated) inner
  | .condition c => if negated then .not (.condition c) else .condition c
  | .past p => if negated then .not (.past p) else .past p
  | .change c => if negated then .not (.change c) else .change c

def normalizeAll (negated : Bool) : List Filter → List Filter
  | [] => []
  | f :: fs => normalizeUnder negated f :: normalizeAll negated fs

end

def normalize (f : Filter) : Filter := normalizeUnder false f

mutual

/-- Negations stand on leaves only. -/
def isNormal : Filter → Bool
  | .all members | .any members => areNormal members
  | .not inner => inner.isLeaf
  | .condition _ | .past _ | .change _ => true

def areNormal : List Filter → Bool
  | [] => true
  | f :: fs => f.isNormal && areNormal fs

end

end Filter

end FilterCompiler
