import FilterCompiler.Catalog
import FilterCompiler.Configuration.Settings
import FilterCompiler.Filter.Basic
import FilterCompiler.History
import FilterCompiler.Query.Basic

/-!
Compilation of filters into queries. A filter is brought to normal form and checked; its leaves are
answered by an environment and combined; the query is anchored and its width checked.
-/

namespace FilterCompiler

namespace Compilation

inductive Fault where
  | tooComplex (f : Filter)
  | tooManyClauses (count limit : Nat)
  | negatedGroup (inner : Filter)

namespace Fault

def message : Fault → String
  | .tooComplex f => String.join ["Clause too complex: ", f.render]
  | .tooManyClauses count limit =>
    String.join ["Too many boolean clauses: ", toString count, " exceeds limit ", toString limit]
  | .negatedGroup inner =>
    String.join ["Illegal state: NOT wrapping a compound clause reached the query visitor: NOT ",
      inner.render]

end Fault

end Compilation

open Compilation

namespace Filter

mutual

/-- No group has more members than the limit, and negations stand on leaves only. Otherwise the
first place from the left where this fails is the fault. -/
def check (limit : Nat) : Filter → Except Fault Unit
  | .all members | .any members =>
    if limit < members.length then .error (.tooManyClauses members.length limit)
    else checkAll limit members
  | .not inner => if inner.isLeaf then .ok () else .error (.negatedGroup inner)
  | .condition _ | .past _ | .change _ => .ok ()

def checkAll (limit : Nat) : List Filter → Except Fault Unit
  | [] => .ok ()
  | f :: fs =>
    match f.check limit with
    | .error fault => .error fault
    | .ok _ => checkAll limit fs

end

mutual

/-- The leaves up to the first fault, from the left. -/
def reached (limit : Nat) : Filter → List Filter
  | .all members | .any members =>
    if limit < members.length then [] else reachedOfAll limit members
  | .not inner => if inner.isLeaf then [inner] else []
  | .condition c => [.condition c]
  | .past p => [.past p]
  | .change c => [.change c]

def reachedOfAll (limit : Nat) : List Filter → List Filter
  | [] => []
  | f :: fs =>
    f.reached limit ++
      match f.check limit with
      | .error _ => []
      | .ok _ => reachedOfAll limit fs

end

end Filter

/-- What answers the leaves of a filter. -/
structure Environment where
  /-- One answer from each handler of the field. -/
  answers : Caller → Condition → List Outcome
  past : Caller → PastValue → Outcome
  change : Caller → Change → Outcome

namespace Environment

/-- Conditions are answered by a catalog, questions about the past by a history. -/
def of (catalog : Catalog) (history : History) : Environment :=
  ⟨catalog.answers, history.past, history.change⟩

def condition (e : Environment) (caller : Caller) (c : Condition) : Outcome :=
  .merge (e.answers caller c)

mutual

def outcome (e : Environment) (caller : Caller) : Filter → Outcome
  | .condition c => e.condition caller c
  | .all members => .conjunction (outcomes e caller members)
  | .any members => .disjunction (outcomes e caller members)
  | .not inner => (outcome e caller inner).complement
  | .past p => e.past caller p
  | .change c => e.change caller c

def outcomes (e : Environment) (caller : Caller) : List Filter → List Outcome
  | [] => []
  | f :: fs => outcome e caller f :: outcomes e caller fs

end

/-- The outcome of a filter in normal form, with groups no wider than the limit. -/
def visit (e : Environment) (limit : Nat) (caller : Caller) (f : Filter) : Except Fault Outcome :=
  (f.check limit).map fun _ => e.outcome caller f

/-- The outcome as a query, before it is finished. -/
def draft (e : Environment) (limit : Nat) (caller : Caller) (f : Filter) : Except Fault Query :=
  (e.visit limit caller f).map Outcome.toQuery

end Environment

/-- The last step on a query: anchoring, and then the check of its width. -/
def Settings.finish (s : Settings) (q : Query) : Except Fault Query :=
  let q := if s.anchors then q.anchored else q
  if s.maxClauses < q.width then .error (.tooManyClauses q.width s.maxClauses) else .ok q

/-- Whatever grew too wide is the fault of the filter as it was given. -/
def Compilation.Fault.blame (f : Filter) : Fault → Fault
  | .tooManyClauses _ _ => .tooComplex f
  | fault => fault

/-- The query for a filter, with some last step. -/
def Environment.compileWith (e : Environment) (limit : Nat) (finish : Query → Except Fault Query)
    (caller : Caller) (f : Filter) : Except Fault Query :=
  (e.draft limit caller f.normalize >>= finish).mapError (Fault.blame f)

def Environment.compile (e : Environment) (s : Settings) (caller : Caller) (f : Filter) :
    Except Fault Query :=
  e.compileWith s.maxClauses s.finish caller f

end FilterCompiler
