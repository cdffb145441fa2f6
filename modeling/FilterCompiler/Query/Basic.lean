import FilterCompiler.Weight.Basic

/-!
Queries that the index answers: questions about the words of single fields, combined by clauses that
say whether a match must, should or must not occur.

The index keeps words for every document beside those of its fields: the fields it shows, the fields
that hold a value, and its own number. A boolean that only excludes matches nothing, since nothing
is left to exclude from; anchoring gives it everything to start with.
-/

namespace FilterCompiler

structure Term where
  field : String
  text : String
deriving DecidableEq

/-- The words of a field between two bounds; a bound that is not given does not restrict. -/
structure WordRange where
  field : String
  lower : Option String
  upper : Option String
  includeLower : Bool
  includeUpper : Bool
deriving DecidableEq

/-- Words next to each other, or at most `slop` moves away from that. -/
structure Phrase where
  field : String
  words : List String
  slop : Nat
deriving DecidableEq

inductive Occurrence where
  | must
  | should
  | mustNot
deriving DecidableEq

inductive Query where
  | term (t : Term)
  | boolean (clauses : List (Occurrence × Query))
  | range (r : WordRange)
  | phrase (p : Phrase)
  /-- Words that start with the text. -/
  | stem (t : Term)
  /-- Words that fit a pattern with `*` and `?`. -/
  | wildcard (t : Term)
  | fuzzy (t : Term) (similarity : Weight)
  | boosted (inner : Query) (boost : Weight)
  | everything

abbrev Clauses := List (Occurrence × Query)

namespace WordRange

def below (field bound : String) (inclusive : Bool) : WordRange :=
  ⟨field, none, some bound, true, inclusive⟩

def above (field bound : String) (inclusive : Bool) : WordRange :=
  ⟨field, some bound, none, inclusive, true⟩

def unbounded (field : String) : WordRange :=
  ⟨field, none, none, true, true⟩

end WordRange

namespace Query

/-- The query that no document matches. -/
def nothing : Query := .boolean []

def isNothing : Query → Bool
  | .boolean clauses => clauses.isEmpty
  | _ => false

/-- A boolean with the query as its only clause, which must not occur. -/
def excluding (q : Query) : Query := .boolean [(.mustNot, q)]

def ofTerm (field text : String) : Query := .term ⟨field, text⟩

/-- The clauses of a boolean. -/
def clauses? : Query → Option Clauses
  | .boolean clauses => some clauses
  | _ => none

/-- A clause put before the one at `index`, or last if there is none. -/
def insertClause (clauses : Clauses) (index : Nat) (clause : Occurrence × Query) : Clauses :=
  clauses.take index ++ clause :: clauses.drop index

/-- There are clauses, and all of them only exclude. -/
def purelyNegative (clauses : Clauses) : Bool :=
  !clauses.isEmpty && clauses.all fun clause => clause.1 == .mustNot

def visibleMarker : String := "visiblefieldids"

def presentMarker : String := "nonemptyfieldids"

def documentMarker : String := "docid"

/-- The documents in which the field can be seen. -/
def visible (field : String) : Query := .ofTerm visibleMarker field

/-- The documents in which the field holds a value. -/
def present (field : String) : Query := .ofTerm presentMarker field

def document (id : Nat) : Query := .ofTerm documentMarker (toString id)

mutual

/-- The number of clauses of the widest boolean, at any depth. -/
def width : Query → Nat
  | .boolean clauses => max clauses.length (widest clauses)
  | .boosted inner _ => inner.width
  | .term _ | .range _ | .phrase _ | .stem _ | .wildcard _ | .fuzzy .. | .everything => 0

def widest : List (Occurrence × Query) → Nat
  | [] => 0
  | (_, q) :: rest => max q.width (widest rest)

end

def anchor (clauses : Clauses) : Clauses :=
  if purelyNegative clauses then (.must, .everything) :: clauses else clauses

mutual

def anchored : Query → Query
  | .boolean clauses => .boolean (anchor (anchoredClauses clauses))
  | .boosted inner boost => .boosted inner.anchored boost
  | .term t => .term t
  | .range r => .range r
  | .phrase p => .phrase p
  | .stem t => .stem t
  | .wildcard t => .wildcard t
  | .fuzzy t similarity => .fuzzy t similarity
  | .everything => .everything

def anchoredClauses : List (Occurrence × Query) → List (Occurrence × Query)
  | [] => []
  | (occurrence, q) :: rest => (occurrence, q.anchored) :: anchoredClauses rest

end

end Query

end FilterCompiler
