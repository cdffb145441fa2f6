import FilterCompiler.Proofs.Acceptance
import FilterCompiler.Proofs.Leaves
import FilterCompiler.Proofs.LowerCase
import FilterCompiler.Query.Render

/-!
The shape of the queries of free-text expressions. What is written without words vanishes, with the
groups it leaves empty, so a query is nothing as a whole or has no empty boolean anywhere. Each of
its leaves asks a question of its kind about the field: words as the analyzer makes them, starts of
words without wild cards, patterns that are neither a start nor open at the front. A group adds at
most one boolean, and so do the groups around it.
-/

namespace FilterCompiler

namespace Query

mutual

/-- The clauses of each boolean in a query, at any depth. -/
def booleans : Query → List Clauses
  | .boolean clauses => clauses :: booleansOfAll clauses
  | .boosted inner _ => inner.booleans
  | .term _ | .range _ | .phrase _ | .stem _ | .wildcard _ | .fuzzy .. | .everything => []

def booleansOfAll : List (Occurrence × Query) → List Clauses
  | [] => []
  | (_, q) :: rest => q.booleans ++ booleansOfAll rest

end

mutual

/-- How many booleans stand inside one another. -/
def depth : Query → Nat
  | .boolean clauses => deepest clauses + 1
  | .boosted inner _ => inner.depth
  | .term _ | .range _ | .phrase _ | .stem _ | .wildcard _ | .fuzzy .. | .everything => 0

def deepest : List (Occurrence × Query) → Nat
  | [] => 0
  | (_, q) :: rest => max q.depth (deepest rest)

end

/-- No boolean in the query is without clauses. -/
def Searchable (q : Query) : Prop := ∀ clauses ∈ q.booleans, clauses ≠ []

theorem mem_booleansOfAll_iff (clauses inner : Clauses) :
    inner ∈ booleansOfAll clauses ↔ ∃ clause ∈ clauses, inner ∈ clause.2.booleans := by
  induction clauses with
  | nil => simp [booleansOfAll]
  | cons clause rest ih => simp [booleansOfAll, ih]

@[simp] theorem searchable_boolean (clauses : Clauses) :
    (boolean clauses).Searchable ↔ clauses ≠ [] ∧ ∀ clause ∈ clauses, clause.2.Searchable := by
  simp only [Searchable, booleans, List.forall_mem_cons, mem_booleansOfAll_iff]
  constructor
  · rintro ⟨hsome, hinner⟩
    exact ⟨hsome, fun clause hmember inner hin => hinner inner ⟨clause, hmember, hin⟩⟩
  · rintro ⟨hsome, hclauses⟩
    refine ⟨hsome, ?_⟩
    rintro inner ⟨clause, hmember, hin⟩
    exact hclauses clause hmember inner hin

@[simp] theorem searchable_boosted (inner : Query) (boost : Weight) :
    (boosted inner boost).Searchable ↔ inner.Searchable := Iff.rfl

/-- A question about a field is not made of clauses. -/
theorem searchable_of_field? {q : Query} {field : String} (hfield : q.field? = some field) :
    q.Searchable := by
  cases q <;> simp_all [Searchable, booleans, field?]

theorem depth_of_field? {q : Query} {field : String} (hfield : q.field? = some field) :
    q.depth = 0 := by
  cases q <;> simp_all [depth, field?]

theorem deepest_le_iff (clauses : Clauses) (n : Nat) :
    deepest clauses ≤ n ↔ ∀ clause ∈ clauses, clause.2.depth ≤ n := by
  induction clauses with
  | nil => simp [deepest]
  | cons clause rest ih => simp only [deepest, List.forall_mem_cons, Nat.max_le, ih]

end Query

namespace FreeText

theorem ne_nil_of_mem_runsAfter {p : Char → Bool} {cs run found : List Char}
    (h : found ∈ runsAfter p run cs) : found ≠ [] := by
  induction cs generalizing run with
  | nil =>
      rw [runsAfter] at h
      split at h
      · cases h
      · simp_all
  | cons c cs ih =>
      rw [runsAfter] at h
      split at h
      · exact ih h
      split at h
      · exact ih h
      · rcases List.mem_cons.mp h with rfl | hlater
        · simp_all
        · exact ih hlater

namespace Analyzer

/-- Words that the analyzer makes of some text. None of them is empty or too common. -/
structure Produces (a : Analyzer) (words : List String) : Prop where
  found : ∃ text, a.words text = words
  ne_empty : ∀ word ∈ words, word ≠ ""
  not_common : ∀ word ∈ words, word ∉ a.stopWords

theorem words_produced (a : Analyzer) (text : String) : a.Produces (a.words text) where
  found := ⟨text, rfl⟩
  ne_empty word hword := by
    obtain ⟨hlowered, -⟩ := List.mem_filter.mp hword
    obtain ⟨run, hrun, rfl⟩ := List.mem_map.mp hlowered
    have hsome : Text.lowerChars run ≠ [] :=
      mt (Text.lowerChars_eq_nil_iff run).mp (ne_nil_of_mem_runsAfter hrun)
    rwa [ne_eq, ← String.toList_inj, String.toList_ofList]
  not_common word hword := by
    obtain ⟨-, hkept⟩ := List.mem_filter.mp hword
    simpa using hkept

end Analyzer

/-- A text with wild cards, though not at its start, that has more of
them than a star at its end. -/
structure IsPattern (cs : List Char) : Prop where
  has_wild : '*' ∈ cs ∨ '?' ∈ cs
  head_not_wild : cs.head? ≠ some '*' ∧ cs.head? ≠ some '?'
  not_start : ∀ front, cs = front ++ ['*'] → '*' ∈ front ∨ '?' ∈ front

namespace Target

/-- The questions that an expression can ask about the target. -/
def CanAsk (t : Target) : Query → Prop
  | .term ⟨field, text⟩ => field = t.field ∧ t.analyzer.Produces [text]
  | .phrase ⟨field, words, _⟩ => field = t.field ∧ 2 ≤ words.length ∧ t.analyzer.Produces words
  | .stem ⟨field, text⟩ =>
      field = t.field ∧ text ≠ "" ∧ '*' ∉ text.toList ∧ '?' ∉ text.toList
  | .wildcard ⟨field, text⟩ => field = t.field ∧ IsPattern text.toList
  | .fuzzy ⟨field, text⟩ _ => field = t.field ∧ text ≠ ""
  | .boolean _ | .range _ | .boosted _ _ | .everything => False

/-- Queries of expressions, with at most so many booleans inside one another. -/
inductive Shaped (t : Target) : Nat → Query → Prop where
  | leaf {n : Nat} {q : Query} (hleaf : t.CanAsk q) : Shaped t n q
  | boosted {n : Nat} {q : Query} {boost : Weight} (hinner : Shaped t n q) :
      Shaped t n (.boosted q boost)
  | boolean {n : Nat} {clauses : Clauses} (hsome : clauses ≠ [])
      (hclauses : ∀ clause ∈ clauses, Shaped t n clause.2) : Shaped t (n + 1) (.boolean clauses)

variable {t : Target} {n : Nat} {q : Query}

theorem CanAsk.field?_eq (h : t.CanAsk q) : q.field? = some t.field := by
  cases q <;> simp_all [CanAsk, Query.field?]

theorem Shaped.searchable (h : t.Shaped n q) : q.Searchable := by
  induction h with
  | leaf hleaf => exact Query.searchable_of_field? hleaf.field?_eq
  | boosted _ ih => exact ih
  | boolean hsome _ ih => exact (Query.searchable_boolean _).mpr ⟨hsome, ih⟩

theorem Shaped.everyLeaf (h : t.Shaped n q) : q.EveryLeaf t.CanAsk := by
  induction h with
  | leaf hleaf => exact Query.everyLeaf_of_field? hleaf.field?_eq hleaf
  | boosted _ ih => exact ih
  | boolean _ _ ih => exact (Query.everyLeaf_boolean _).mpr ih

theorem Shaped.depth_le (h : t.Shaped n q) : q.depth ≤ n := by
  induction h with
  | leaf hleaf => simp [Query.depth_of_field? hleaf.field?_eq]
  | boosted _ ih => exact ih
  | boolean _ _ ih => exact Nat.succ_le_succ ((Query.deepest_le_iff _ _).mpr ih)

/-- There may be room for more booleans than there are. -/
theorem Shaped.succ (h : t.Shaped n q) : t.Shaped (n + 1) q := by
  induction h with
  | leaf hleaf => exact .leaf hleaf
  | boosted _ ih => exact .boosted ih
  | boolean hsome _ ih => exact .boolean hsome ih

theorem Shaped.boosted? (boost : Option Weight) (h : t.Shaped n q) :
    t.Shaped n (FreeText.boosted boost q) := by
  cases boost with
  | none => exact h
  | some b => exact .boosted h

theorem words?_shaped {slop : Nat} {text : String} (h : t.words? slop text = some q) :
    t.Shaped n q := by
  have hproduced := t.analyzer.words_produced text
  unfold words? at h
  split at h
  · cases h
  · rename_i word hwords
    rw [hwords] at hproduced
    obtain rfl := Option.some.inj h
    exact .leaf ⟨rfl, hproduced⟩
  · rename_i hnone hone
    obtain rfl := Option.some.inj h
    refine .leaf ⟨rfl, ?_, hproduced⟩
    rcases hwords : t.analyzer.words text with _ | ⟨first, _ | ⟨second, rest⟩⟩
    · exact absurd hwords hnone
    · exact absurd hwords (hone first)
    · simp

theorem pattern_canAsk (t : Target) {body : String} (hwild : body.toList.any isWild = true)
    (hhead : body.toList.head?.any isWild = false) : t.CanAsk (t.pattern body) := by
  rw [← any_isWild_lowerChars] at hwild
  rw [← head?_isWild_lowerChars] at hhead
  unfold pattern
  generalize Text.lowerChars body.toList = lowered at hwild hhead
  dsimp only
  split
  · rename_i hstar
    rw [Bool.and_eq_true, decide_eq_true_eq, Bool.not_eq_true'] at hstar
    obtain ⟨hlast, hfront⟩ := hstar
    obtain ⟨front, rfl⟩ := List.getLast?_eq_some_iff.mp hlast
    rw [List.dropLast_concat] at hfront ⊢
    rw [← Bool.not_eq_true, any_isWild_iff, not_or] at hfront
    refine ⟨rfl, ?_, by rwa [String.toList_ofList]⟩
    -- Were nothing left of it, the star would stand at the start.
    rw [ne_eq, ← String.toList_inj, String.toList_ofList]
    rintro rfl
    cases hhead
  · rename_i hstar
    refine ⟨rfl, ?_⟩
    rw [String.toList_ofList]
    refine ⟨(any_isWild_iff _).mp hwild, (head?_isWild_eq_false_iff _).mp hhead, ?_⟩
    rintro front rfl
    rw [← any_isWild_iff]
    simpa using hstar

/-- A word is a question of its own, or none if the analyzer finds nothing in it. -/
theorem word?_shaped {w : Word} {raw : List Char} (hword : w.Spelled raw) (h : t.word? w = some q) :
    t.Shaped n q := by
  obtain ⟨plain, hplain, rfl⟩ := Option.map_eq_some_iff.mp h
  apply Shaped.boosted?
  cases hword with
  | mk hbody htilde hcaret hsimilarity hboost hpattern =>
      cases hsimilarity with
      | some =>
          obtain rfl := Option.some.inj hplain
          refine .leaf ⟨rfl, ?_⟩
          rw [ne_eq, Text.lower_eq_empty_iff]
          simpa [← String.toList_inj] using hbody
      | none =>
          dsimp only at hplain
          split at hplain
          · rename_i hwild
            obtain rfl := Option.some.inj hplain
            rw [String.toList_ofList] at hwild
            apply Shaped.leaf
            apply t.pattern_canAsk
            · rwa [String.toList_ofList]
            · rw [String.toList_ofList, head?_isWild_eq_false_iff]
              exact hpattern rfl
          · exact words?_shaped hplain

theorem quote?_shaped {quote : Quote} (h : t.quote? quote = some q) : t.Shaped n q := by
  obtain ⟨plain, hplain, rfl⟩ := Option.map_eq_some_iff.mp h
  exact (words?_shaped hplain).boosted? quote.boost

end Target

/-- Adding an item keeps the queries of the clauses; only their occurrences are revised. -/
theorem addItem_forall {p : Query → Prop} {clauses : Clauses} {item : Link × Option Query}
    (hclauses : ∀ clause ∈ clauses, p clause.2) (hitem : ∀ q, item.2 = some q → p q) :
    ∀ clause ∈ addItem clauses item, p clause.2 := by
  obtain ⟨link, query?⟩ := item
  cases clauses with
  | nil =>
      cases query? with
      | none => exact hclauses
      | some q => exact List.forall_mem_cons.mpr ⟨hitem q rfl, hclauses⟩
  | cons head rest =>
      have hrevised : ∀ clause ∈ (link.revise head.1, head.2) :: rest, p clause.2 :=
        List.forall_mem_cons.mpr (List.forall_mem_cons.mp hclauses)
      cases query? with
      | none => exact hrevised
      | some q => exact List.forall_mem_cons.mpr ⟨hitem q rfl, hrevised⟩

theorem foldl_addItem_forall {p : Query → Prop} (items : List (Link × Option Query))
    (clauses : Clauses) (hclauses : ∀ clause ∈ clauses, p clause.2)
    (hitems : ∀ item ∈ items, ∀ q, item.2 = some q → p q) :
    ∀ clause ∈ items.foldl addItem clauses, p clause.2 := by
  induction items generalizing clauses with
  | nil => exact hclauses
  | cons item rest ih =>
      apply ih
      · exact addItem_forall hclauses (hitems item List.mem_cons_self)
      · intro later hmember
        exact hitems later (List.mem_cons_of_mem item hmember)

/-- The query of a level is that of one of its items, or a boolean of
the queries of some of them. -/
theorem levelQuery?_cases {items : List (Link × Option Query)} {q : Query}
    (h : levelQuery? items = some q) :
    (∃ item ∈ items, item.2 = some q) ∨
      ∃ clauses, q = .boolean clauses ∧ clauses ≠ [] ∧
        ∀ clause ∈ clauses, ∃ item ∈ items, item.2 = some clause.2 := by
  have hclauses : ∀ clause ∈ levelClauses items, ∃ item ∈ items, item.2 = some clause.2 := by
    intro clause hmember
    apply foldl_addItem_forall (p := fun q => ∃ item ∈ items, item.2 = some q) items []
    · simp
    · intro item hitem q hq
      exact ⟨item, hitem, hq⟩
    · exact List.mem_reverse.mp hmember
  unfold levelQuery? at h
  split at h
  · cases h
  · rename_i occurrence only _ _ _ hlevel
    obtain rfl := Option.some.inj h
    exact Or.inl (hclauses (occurrence, only) (by simp [hlevel]))
  · rename_i hsome _
    obtain rfl := Option.some.inj h
    exact Or.inr ⟨_, rfl, hsome, hclauses⟩

open Target (Shaped)

/-- Whatever groups are open before a term, its query has at most as many booleans inside one
another as the term opens groups. -/
def Node.Shapes (t : Target) (node : Node) (ks : List Kind) : Prop :=
  ∀ opened room q, nestingFrom opened ks ≤ opened + room → node.query? t = some q → t.Shaped room q

/-- The same of the terms of a level. -/
def Level.Shapes (t : Target) (level : Level) (ks : List Kind) : Prop :=
  ∀ opened room, nestingFrom opened ks ≤ opened + room →
    ∀ item ∈ level, ∀ q, item.2.query? t = some q → t.Shaped room q

variable {t : Target} {node : Node} {level : Level} {ks : List Kind}

/-- A level adds at most one boolean around its terms. -/
theorem Level.Shapes.query? (hlevel : level.Shapes t ks) {opened room : Nat}
    (hnesting : nestingFrom opened ks ≤ opened + room) {q : Query} (h : level.query? t = some q) :
    t.Shaped (room + 1) q := by
  have hitem : ∀ item ∈ Level.queries t level, ∀ q, item.2 = some q → t.Shaped room q := by
    intro item hmember q hq
    rw [Level.queries_eq_map] at hmember
    obtain ⟨source, hsource, rfl⟩ := List.mem_map.mp hmember
    exact hlevel opened room hnesting source hsource q hq
  rcases levelQuery?_cases h with ⟨item, hmember, hq⟩ | ⟨clauses, rfl, hsome, hclauses⟩
  · exact (hitem item hmember q hq).succ
  · apply Shaped.boolean hsome
    intro clause hclause
    obtain ⟨item, hmember, hq⟩ := hclauses clause hclause
    exact hitem item hmember clause.2 hq

theorem Level.Shapes.group (hlevel : level.Shapes t ks) (boost : Option Weight)
    (after : List Kind) : Node.Shapes t (.group level boost) (.opening :: ks ++ after) := by
  intro opened room q hnesting hquery
  rw [List.cons_append, nestingFrom, nestingFrom_append] at hnesting
  obtain ⟨-, hinside⟩ := Nat.max_le.mp hnesting
  have hlevelNesting : nestingFrom (opened + 1) ks ≤ opened + room := (Nat.max_le.mp hinside).1
  have hopened := opened_le_nestingFrom (opened + 1) ks
  obtain ⟨inner, rfl⟩ : ∃ inner, room = inner + 1 := ⟨room - 1, by omega⟩
  rw [Node.query?] at hquery
  obtain ⟨plain, hplain, rfl⟩ := Option.map_eq_some_iff.mp hquery
  have hroom : nestingFrom (opened + 1) ks ≤ opened + 1 + inner := by omega
  exact (hlevel.query? hroom hplain).boosted? boost

theorem Node.Shapes.first {ms : List Kind} {modifier : Option Modifier}
    (hmodifier : Modifier.Spelled modifier ms) (hnode : node.Shapes t ks) :
    Level.Shapes t [(⟨none, modifier⟩, node)] (ms ++ ks) := by
  intro opened room hnesting item hmember q hquery
  obtain rfl := List.mem_singleton.mp hmember
  rw [nestingFrom_append, hmodifier.balanced] at hnesting
  exact hnode opened room q (Nat.max_le.mp hnesting).2 hquery

theorem Level.Shapes.next {before cs ms : List Kind} {conjunction : Option Conjunction}
    {modifier : Option Modifier} (hspelled : level.Spelled before) (hlevel : level.Shapes t before)
    (hconjunction : Conjunction.Spelled conjunction cs) (hmodifier : Modifier.Spelled modifier ms)
    (hnode : node.Shapes t ks) :
    Level.Shapes t (level ++ [(⟨conjunction, modifier⟩, node)]) (before ++ (cs ++ ms) ++ ks) := by
  intro opened room hnesting item hmember q hquery
  rw [nestingFrom_append, nestingFrom_append, List.foldl_append, List.foldl_append,
    hspelled.balanced, hconjunction.balanced, hmodifier.balanced] at hnesting
  obtain ⟨hlead, hterm⟩ := Nat.max_le.mp hnesting
  rcases List.mem_append.mp hmember with hbefore | hlast
  · exact hlevel opened room (Nat.max_le.mp hlead).1 item hbefore q hquery
  · obtain rfl := List.mem_singleton.mp hlast
    exact hnode opened room q hterm hquery

mutual

theorem Node.Spelled.shapes (t : Target) {node : Node} {ks : List Kind} (h : node.Spelled ks) :
    node.Shapes t ks :=
  match h with
  | .word hword => fun _ _ _ _ hquery => Target.word?_shaped hword hquery
  | .quote _ => fun _ _ _ _ hquery => Target.quote?_shaped hquery
  | .group hlevel | .boosted hlevel _ => (hlevel.shapes t).group _ _

/-- The terms of every level of the grammar have queries of the shape. -/
theorem Level.Spelled.shapes (t : Target) {level : Level} {ks : List Kind} (h : level.Spelled ks) :
    level.Shapes t ks :=
  match h with
  | .first hmodifier hnode => (hnode.shapes t).first hmodifier
  | .next hlevel hconjunction hmodifier hnode =>
      (hlevel.shapes t).next hlevel hconjunction hmodifier (hnode.shapes t)

end

/-- A text asks for nothing, or has a query with at most one boolean more inside one
another than there may be groups. -/
theorem Target.parse_shaped {text : String} {q : Query} (h : t.parse text = .ok q) :
    q = .nothing ∨ t.Shaped (maxDepth + 1) q := by
  simp only [Target.parse, bind_eq_ok_iff] at h
  obtain ⟨ts, -, level, hread, heq⟩ := h
  obtain rfl := Except.ok.inj heq
  rcases (Level.read_eq_ok_iff ts level).mp hread with ⟨-, rfl⟩ | ⟨hlevel, hnesting⟩
  · exact Or.inl rfl
  cases hquery : level.query? t with
  | none => exact Or.inl rfl
  | some q =>
      have hroom : nestingFrom 0 (ts.map Token.kind) ≤ 0 + maxDepth := by rwa [Nat.zero_add]
      exact Or.inr ((hlevel.shapes t).query? hroom hquery)

/-- However a text is written, if it can be read its query is nothing or has no empty boolean at any
depth, its leaves ask questions of their kind about the field, and at most 257 booleans stand inside
one another. Nothing is assumed about how a text is lower-cased. -/
theorem Target.parsed_query_shape (t : Target) (text : String) (q : Query)
    (h : t.parse text = .ok q) :
    (q = .nothing ∨ q.Searchable) ∧ q.EveryLeaf t.CanAsk ∧ q.depth ≤ 257 := by
  rcases Target.parse_shaped h with rfl | hshaped
  · exact ⟨Or.inl rfl, Query.everyLeaf_nothing, by simp [Query.nothing, Query.depth, Query.deepest]⟩
  · exact ⟨Or.inr hshaped.searchable, hshaped.everyLeaf, hshaped.depth_le⟩

/-- The first group has no words and leaves no clause behind; the common word leaves the phrase, and
the star the start of a word. Its text could not keep the star, nor a pattern start with one. -/
theorem Target.parsed_query_shape_of_groups :
    let t : Target := ⟨"summary", .english⟩
    let text := "(the) -(\"The Cool Stuff\"~2 OR Stuf* s?uf*)"
    ∃ q, t.parse text = .ok q ∧
      q.render = "-(summary:\"cool stuff\"~2 summary:stuf* +summary:s?uf*)" ∧
      ((q = .nothing ∨ q.Searchable) ∧ q.EveryLeaf t.CanAsk ∧ q.depth ≤ 257) ∧
      ¬ t.CanAsk (.stem ⟨"summary", "stuf*"⟩) ∧ ¬ t.CanAsk (.wildcard ⟨"summary", "*s?uf"⟩) := by
  intro t text
  have hrendered : (t.parse text).toOption.map Query.render =
      some "-(summary:\"cool stuff\"~2 summary:stuf* +summary:s?uf*)" := by decide +kernel
  cases hparse : t.parse text with
  | error fault =>
      rw [hparse] at hrendered
      cases hrendered
  | ok q =>
      rw [hparse] at hrendered
      refine ⟨q, rfl, Option.some.inj hrendered, parsed_query_shape t text q hparse, ?_, ?_⟩
      · rintro ⟨-, -, hstar, -⟩
        exact hstar (by decide)
      · rintro ⟨-, hpattern⟩
        exact hpattern.head_not_wild.1 (by decide)

end FreeText

end FilterCompiler
