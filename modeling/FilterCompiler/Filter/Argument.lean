import FilterCompiler.Filter.Basic
import FilterCompiler.Text.LowerCase

/-!
Arguments: what an operand comes down to once its functions have been
called. Functions see who asks.
-/

namespace FilterCompiler

/-- Callers see what the fields permit them to see, unless the restriction is lifted. -/
structure Caller where
  /-- The name of the caller; an anonymous one has none. -/
  user : Option String
  unrestricted : Bool
deriving DecidableEq

inductive Argument where
  /-- Literals in the place of a single value. -/
  | single (literals : List Literal)
  /-- Literals in the place of a list. -/
  | list (literals : List Literal)
  | empty

/-- A way to resolve operands: the literals that one comes down to for a caller and a field, and
whether it takes the place of a list or of the empty marker. -/
structure Resolver where
  literals : Caller → String → Operand → List Literal
  isList : Operand → Bool
  isEmpty : Operand → Bool

def Resolver.argument (r : Resolver) (caller : Caller) (field : String) (o : Operand) : Argument :=
  if r.isEmpty o then .empty
  else if r.isList o then .list (r.literals caller field o)
  else .single (r.literals caller field o)

/-- A function that stands for literals. It sees the caller, the arguments as written and the field
that it is compared with. -/
structure OperandFunction where
  values : Caller → List String → String → List Literal
  isList : Bool

/-- Functions by their names in lower case; the latest comes first and
hides the others of its name. -/
structure Functions where
  entries : List (String × OperandFunction)

namespace Functions

def empty : Functions := ⟨[]⟩

def register (fs : Functions) (name : String) (f : OperandFunction) : Functions :=
  ⟨(Text.lower name, f) :: fs.entries⟩

def find? (fs : Functions) (name : String) : Option OperandFunction :=
  fs.entries.lookup (Text.lower name)

/-- The name of the caller. -/
def currentUser : OperandFunction where
  values caller _ _ := (caller.user.map Literal.text).toList
  isList := false

def builtin : Functions := empty.register "currentUser" currentUser

mutual

/-- The literals of an operand in order; a function that is not known has none. -/
def literals (fs : Functions) (caller : Caller) (field : String) : Operand → List Literal
  | .number n => [.number n]
  | .text s => [.text s]
  | .empty => [.empty]
  | .list members => literalsOfAll fs caller field members
  | .call function arguments =>
    match fs.find? function with
    | some f => f.values caller arguments field
    | none => []

def literalsOfAll (fs : Functions) (caller : Caller) (field : String) : List Operand → List Literal
  | [] => []
  | o :: os => literals fs caller field o ++ literalsOfAll fs caller field os

end

def isList (fs : Functions) : Operand → Bool
  | .list _ => true
  | .call function _ => (fs.find? function).any (·.isList)
  | _ => false

def resolver (fs : Functions) : Resolver where
  literals := fs.literals
  isList := fs.isList
  isEmpty := Operand.isEmpty

end Functions

end FilterCompiler
