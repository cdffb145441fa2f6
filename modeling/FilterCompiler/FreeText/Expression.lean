import FilterCompiler.FreeText.Words
import FilterCompiler.Query.Basic

/-!
Free-text expressions and the queries they stand for. A level is what stands between two
parentheses, or the whole expression: items with the connectives and modifiers written before them.
-/

namespace FilterCompiler.FreeText

inductive Conjunction where
  | and
  | or
deriving DecidableEq

inductive Modifier where
  | required
  | prohibited
deriving DecidableEq

/-- What is written between an item and the one before it. -/
structure Link where
  conjunction : Option Conjunction
  modifier : Option Modifier
deriving DecidableEq

structure Word where
  body : String
  /-- Given for words that are to be matched approximately. -/
  similarity : Option Weight
  boost : Option Weight

structure Quote where
  text : String
  slop : Nat
  boost : Option Weight

inductive Node where
  | word (w : Word)
  | quote (q : Quote)
  | group (level : List (Link × Node)) (boost : Option Weight)

abbrev Level := List (Link × Node)

/-- The field that is searched and the words it was indexed by. -/
structure Target where
  field : String
  analyzer : Analyzer

def isWild (c : Char) : Bool := c == '*' || c == '?'

def boosted (boost : Option Weight) (q : Query) : Query :=
  match boost with
  | none => q
  | some b => .boosted q b

namespace Target

/-- A single word or several words in a row; nothing if the text has no words. -/
def words? (t : Target) (slop : Nat) (text : String) : Option Query :=
  match t.analyzer.words text with
  | [] => none
  | [word] => some (.ofTerm t.field word)
  | words => some (.phrase ⟨t.field, words, slop⟩)

/-- A pattern in which only the last character is a star asks for words that start with the rest. -/
def pattern (t : Target) (body : String) : Query :=
  let lowered := Text.lowerChars body.toList
  if lowered.getLast? = some '*' && !lowered.dropLast.any isWild then
    .stem ⟨t.field, String.ofList lowered.dropLast⟩
  else .wildcard ⟨t.field, String.ofList lowered⟩

def word? (t : Target) (w : Word) : Option Query :=
  let query? : Option Query :=
    match w.similarity with
    | some similarity => some (.fuzzy ⟨t.field, Text.lower w.body⟩ similarity)
    | none => if w.body.toList.any isWild then some (t.pattern w.body) else t.words? 0 w.body
  query?.map (boosted w.boost)

def quote? (t : Target) (q : Quote) : Option Query :=
  (t.words? q.slop q.text).map (boosted q.boost)

end Target

/-- How a clause occurs when nothing after it says otherwise. -/
def Link.occurrence (l : Link) : Occurrence :=
  if l.modifier = some .prohibited then .mustNot
  else if l.conjunction = some .or then .should
  else .must

/-- A conjunction also decides about the clause before it, unless that one is prohibited. -/
def Link.revise (l : Link) (before : Occurrence) : Occurrence :=
  if before = .mustNot then .mustNot
  else match l.conjunction with
    | some .and => .must
    | some .or => .should
    | none => before

/-- Adds an item to clauses held in reverse. An item without words still has its
say about the clause before it. -/
def addItem (clauses : Clauses) (item : Link × Option Query) : Clauses :=
  let revised :=
    match clauses with
    | [] => []
    | (occurrence, q) :: rest => (item.1.revise occurrence, q) :: rest
  match item.2 with
  | none => revised
  | some q => (item.1.occurrence, q) :: revised

def levelClauses (items : List (Link × Option Query)) : Clauses :=
  (items.foldl addItem []).reverse

/-- The query of a level. A first item without modifier that is the only one with
words needs no boolean around it. -/
def levelQuery? (items : List (Link × Option Query)) : Option Query :=
  match levelClauses items, items with
  | [], _ => none
  | [(_, q)], (⟨_, none⟩, some _) :: _ => some q
  | clauses, _ => some (.boolean clauses)

mutual

def Node.query? (t : Target) : Node → Option Query
  | .word w => t.word? w
  | .quote q => t.quote? q
  | .group level boost => (levelQuery? (Level.queries t level)).map (boosted boost)

def Level.queries (t : Target) : List (Link × Node) → List (Link × Option Query)
  | [] => []
  | (link, node) :: rest => (link, node.query? t) :: Level.queries t rest

end

def Level.query? (t : Target) (level : Level) : Option Query :=
  levelQuery? (Level.queries t level)

end FilterCompiler.FreeText
