import FilterCompiler.Query.Basic
import FilterCompiler.Weight.Shortest

/-!
The query notation: what a query looks like in print.
-/

namespace FilterCompiler

def Term.render (t : Term) : String := t.field ++ ":" ++ t.text

def Occurrence.mark : Occurrence → String
  | .must => "+"
  | .should => ""
  | .mustNot => "-"

/-- An open end is a star, and a bound that is a star is escaped. -/
def WordRange.renderBound : Option String → String
  | none => "*"
  | some bound => if bound = "*" then "\\*" else bound

def WordRange.render (r : WordRange) : String :=
  r.field ++ ":" ++ (if r.includeLower then "[" else "\x7b") ++ renderBound r.lower ++ " TO " ++
    renderBound r.upper ++ (if r.includeUpper then "]" else "\x7d")

def Phrase.render (p : Phrase) : String :=
  p.field ++ ":\"" ++ " ".intercalate p.words ++ "\"" ++
    (if p.slop = 0 then "" else "~" ++ toString p.slop)

namespace Query

/-- Parentheses around a boolean inside another query. -/
def enclose (q : Query) (text : String) : String :=
  match q with
  | .boolean _ => "(" ++ text ++ ")"
  | _ => text

mutual

def render : Query → String
  | .term t => t.render
  | .boolean clauses => " ".intercalate (renderClauses clauses)
  | .range r => r.render
  | .phrase p => p.render
  | .stem t => t.render ++ "*"
  | .wildcard t => t.render
  | .fuzzy t similarity => t.render ++ "~" ++ similarity.write
  | .boosted inner boost => inner.enclose inner.render ++ "^" ++ boost.write
  | .everything => "*:*"

def renderClauses : List (Occurrence × Query) → List String
  | [] => []
  | (occurrence, q) :: rest => (occurrence.mark ++ q.enclose q.render) :: renderClauses rest

end

end Query

end FilterCompiler
