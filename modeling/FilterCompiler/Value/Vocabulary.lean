import FilterCompiler.Filter.Basic
import FilterCompiler.Text.Basic
import FilterCompiler.Text.LowerCase

/-!
Fields whose values are constants with an identifier and a name. Several constants may share a name;
where the constants have an order, it is that of a list of identifiers.
-/

namespace FilterCompiler.Value

structure Constant where
  id : String
  name : String
deriving DecidableEq

structure Vocabulary where
  constants : List Constant

namespace Vocabulary

/-- The constants with this name, in any case. -/
def named (v : Vocabulary) (name : String) : List String :=
  (v.constants.filter fun c => Text.lower c.name == Text.lower name).map (·.id)

def identified (v : Vocabulary) (id : String) : List String :=
  if v.constants.any (·.id == id) then [id] else []

/-- A text is a name first, and an identifier if no constant has that name and it is a number. A
number is an identifier first, and then a name. -/
def values (v : Vocabulary) : Literal → List String
  | .text s =>
    let name := Text.trim s
    let ids := v.named name
    if ids.isEmpty && (Text.readInt64? name.toList).isSome then v.identified name else ids
  | .number n =>
    let text := toString n.toInt
    let ids := v.identified text
    if ids.isEmpty then v.named text else ids
  | .empty => []

end Vocabulary

/-- The identifiers of ordered constants, lowest first. -/
structure Scale where
  ids : List String

namespace Scale

/-- The identifiers below one of the scale, and that one itself if it is included. -/
def below? (s : Scale) (id : String) (inclusive : Bool) : Option (List String) :=
  (s.ids.idxOf? id).map fun i => s.ids.take (if inclusive then i + 1 else i)

def above? (s : Scale) (id : String) (inclusive : Bool) : Option (List String) :=
  (s.ids.idxOf? id).map fun i => s.ids.drop (if inclusive then i else i + 1)

end Scale

end FilterCompiler.Value
