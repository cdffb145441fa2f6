import FilterCompiler.Proofs.Acceptance
import FilterCompiler.Proofs.Trees

/-!
How the clauses of a level occur. A level is read from left to right, and every item has its say
about the clause before it, also an item without words, which leaves no clause itself. Here the
result is said for each item at once, by its place among the others: a prohibited item is excluded
whatever comes next; for any other item the last conjunction written up to the next item with words
decides, and its own conjunction only if there is none.
-/

namespace FilterCompiler.FreeText

/-- The items of a level with the queries they stand for. An item without words has none. -/
abbrev Items := List (Link × Option Query)

namespace Items

/-- The item at `i` has words. -/
def survives (items : Items) (i : Nat) : Bool := (items[i]?.bind Prod.snd).isSome

/-- The places of the items with words, in order. -/
def survivors (items : Items) : List Nat := (List.range items.length).filter items.survives

/-- The place of the next item with words after `i`, or of the last item if there is none. -/
def next (items : Items) (i : Nat) : Nat := (items.survivors.find? (i < ·)).getD (items.length - 1)

/-- The last conjunction written after the item at `i`, up to the item at `j`. -/
def lastConjunction (items : Items) (i j : Nat) : Option Conjunction :=
  (((items.take (j + 1)).drop (i + 1)).filterMap fun item => item.1.conjunction).getLast?

end Items

/-- How an item occurs, given the conjunction that decides about it, if there is one. -/
def Link.occurrenceUnder (l : Link) (deciding : Option Conjunction) : Occurrence :=
  if l.modifier = some .prohibited then .mustNot
  else match deciding with
    | some .and => .must
    | some .or => .should
    | none => if l.conjunction = some .or then .should else .must

namespace Items

/-- The clause of the item at `i`, if it has words. -/
def clauseAt? (items : Items) (i : Nat) : Option (Occurrence × Query) := do
  let (link, query?) ← items[i]?
  let q ← query?
  some (link.occurrenceUnder (items.lastConjunction i (items.next i)), q)

def clauses (items : Items) : Clauses := items.survivors.filterMap items.clauseAt?

/-- The items that follow, up to the first of them that has words. -/
def reach (later : Items) : Items := later.take (later.findIdx (·.2.isSome) + 1)

/-- The conjunction by which the items that follow decide about the clause before them. -/
def deciding (later : Items) : Option Conjunction :=
  (later.reach.filterMap fun item => item.1.conjunction).getLast?

theorem deciding_cons_some (link : Link) (q : Query) (later : Items) :
    deciding ((link, some q) :: later) = link.conjunction := by
  cases hconjunction : link.conjunction <;>
    simp [deciding, reach, List.findIdx_cons, hconjunction]

theorem deciding_cons_none (link : Link) (later : Items) :
    deciding ((link, none) :: later) = (deciding later).or link.conjunction := by
  cases hconjunction : link.conjunction with
  | none => simp [deciding, reach, List.findIdx_cons, hconjunction]
  | some c =>
      simp only [deciding, reach, List.findIdx_cons, Option.isSome_none, cond_false,
        List.take_succ_cons, List.filterMap_cons, hconjunction, List.getLast?_cons]
      cases (List.filterMap _ _).getLast? <;> rfl

end Items

/-- What becomes of a clause when a conjunction decides about it. -/
def decidedBy (o : Occurrence) (deciding : Option Conjunction) : Occurrence :=
  (⟨deciding, none⟩ : Link).revise o

theorem Link.revise_eq_decidedBy (l : Link) (o : Occurrence) :
    l.revise o = decidedBy o l.conjunction := rfl

/-- Of two conjunctions that decide one after the other, the later one counts. -/
theorem decidedBy_decidedBy (o : Occurrence) (c c' : Option Conjunction) :
    decidedBy (decidedBy o c) c' = decidedBy o (c'.or c) := by
  cases o <;> rcases c with _ | _ | _ <;> rcases c' with _ | _ | _ <;> rfl

theorem Link.occurrence_decidedBy (l : Link) (deciding : Option Conjunction) :
    decidedBy l.occurrence deciding = l.occurrenceUnder deciding := by
  unfold Link.occurrence Link.occurrenceUnder
  by_cases hprohibited : l.modifier = some .prohibited
  · simp [hprohibited, decidedBy, Link.revise]
  · simp only [hprohibited, if_false]
    by_cases hor : l.conjunction = some .or <;> rcases deciding with _ | _ | _ <;>
      simp [hor, decidedBy, Link.revise]

/-- The clauses of items, each decided by those that follow it. -/
def settledClauses : Items → Clauses
  | [] => []
  | (_, none) :: later => settledClauses later
  | (link, some q) :: later =>
    (link.occurrenceUnder (Items.deciding later), q) :: settledClauses later

/-- Adding items settles the clause before them and leaves those further back as they are. -/
theorem foldl_addItem_reverse (items : Items) (o : Occurrence) (q : Query) (before : Clauses) :
    (items.foldl addItem ((o, q) :: before)).reverse =
      before.reverse ++ (decidedBy o (Items.deciding items), q) :: settledClauses items := by
  induction items generalizing o q before with
  | nil =>
      cases o <;> simp [settledClauses, Items.deciding, Items.reach, decidedBy, Link.revise]
  | cons item later ih =>
      obtain ⟨link, query?⟩ := item
      cases query? with
      | none =>
          rw [List.foldl_cons, addItem, ih, settledClauses, Items.deciding_cons_none,
            ← decidedBy_decidedBy, Link.revise_eq_decidedBy]
      | some next =>
          rw [List.foldl_cons, addItem, ih, settledClauses, Items.deciding_cons_some,
            Link.occurrence_decidedBy, Link.revise_eq_decidedBy, List.reverse_cons,
            List.append_assoc]
          rfl

theorem levelClauses_eq_settledClauses (items : Items) :
    levelClauses items = settledClauses items := by
  induction items with
  | nil => rfl
  | cons item later ih =>
      obtain ⟨link, query?⟩ := item
      cases query? with
      | none => exact ih
      | some q =>
          have hrun := foldl_addItem_reverse later link.occurrence q []
          rw [Link.occurrence_decidedBy] at hrun
          exact hrun

namespace Items

theorem survives_eq (items : Items) {i : Nat} (hi : i < items.length) :
    items.survives i = items[i].2.isSome := by
  simp [survives, hi]

theorem of_find?_survivors_eq_some {items : Items} {i j : Nat}
    (h : items.survivors.find? (i < ·) = some j) :
    i < j ∧ j < items.length ∧ items.survives j = true ∧
      ∀ k, i < k → k < j → items.survives k = false := by
  rw [survivors, List.find?_filter] at h
  obtain ⟨hfound, hrange, hbefore⟩ := List.find?_range_eq_some.mp h
  simp only [decide_eq_true_eq] at hfound
  refine ⟨hfound.2, List.mem_range.mp hrange, hfound.1, ?_⟩
  intro k hafter hk
  simpa [hafter] using hbefore k hk

theorem of_find?_survivors_eq_none {items : Items} {i : Nat}
    (h : items.survivors.find? (i < ·) = none) :
    ∀ k, i < k → k < items.length → items.survives k = false := by
  rw [survivors, List.find?_filter] at h
  intro k hafter hk
  simpa [hafter] using List.find?_range_eq_none.mp h k hk

/-- The next place is where the items that follow reach to. -/
theorem drop_take_next (items : Items) (i : Nat) :
    (items.take (items.next i + 1)).drop (i + 1) = reach (items.drop (i + 1)) := by
  have hlength : (items.drop (i + 1)).length = items.length - (i + 1) := List.length_drop
  rw [List.drop_take, reach, next]
  cases hnext : items.survivors.find? (i < ·) with
  | none =>
      -- No item with words follows, and both sides are everything that follows.
      have hlast : (items.drop (i + 1)).findIdx (·.2.isSome) = (items.drop (i + 1)).length := by
        rw [List.findIdx_eq_length]
        intro item hmember
        obtain ⟨k, hk, rfl⟩ := List.mem_iff_getElem.mp hmember
        have hplace : i + 1 + k < items.length := by omega
        have hnone := of_find?_survivors_eq_none hnext (i + 1 + k) (by omega) hplace
        simpa [survives_eq items hplace] using hnone
      rw [hlast, List.take_of_length_le, List.take_of_length_le]
      · omega
      · rw [Option.getD_none]
        omega
  | some j =>
      obtain ⟨hafter, hrange, hsurvives, hbetween⟩ := of_find?_survivors_eq_some hnext
      have hk : j - (i + 1) < (items.drop (i + 1)).length := by omega
      have hplace : i + 1 + (j - (i + 1)) = j := by omega
      have hfirst : (items.drop (i + 1)).findIdx (·.2.isSome) = j - (i + 1) := by
        rw [List.findIdx_eq hk]
        constructor
        · simpa [survives_eq items hrange, hplace] using hsurvives
        · intro k hk
          have hlater : i + 1 + k < items.length := by omega
          have hnone := hbetween (i + 1 + k) (by omega) (by omega)
          simpa [survives_eq items hlater] using hnone
      rw [hfirst, Option.getD_some]
      congr 1
      omega

theorem lastConjunction_next (items : Items) (i : Nat) :
    items.lastConjunction i (items.next i) = deciding (items.drop (i + 1)) := by
  rw [lastConjunction, drop_take_next, deciding]

theorem clauseAt?_eq (items : Items) (i : Nat) :
    items.clauseAt? i = items[i]?.bind fun item =>
      item.2.map fun q => (item.1.occurrenceUnder (deciding (items.drop (i + 1))), q) := by
  unfold clauseAt?
  rw [lastConjunction_next]
  cases items[i]? with
  | none => rfl
  | some item => cases hquery : item.2 <;> simp [hquery]

theorem clauseAt?_isSome (items : Items) (i : Nat) :
    (items.clauseAt? i).isSome = items.survives i := by
  rw [clauseAt?_eq, survives]
  cases items[i]? <;> simp

theorem clauses_eq_filterMap (items : Items) :
    items.clauses = (List.range items.length).filterMap items.clauseAt? := by
  rw [clauses, survivors, List.filterMap_filter]
  congr 1
  funext i
  rw [← clauseAt?_isSome]
  cases items.clauseAt? i <;> rfl

/-- What is said of each item by its place comes to the same as what is said
of it by the items that follow. -/
theorem clauses_eq_settledClauses (items : Items) : items.clauses = settledClauses items := by
  rw [clauses_eq_filterMap]
  induction items with
  | nil => rfl
  | cons item later ih =>
      have hlater : clauseAt? (item :: later) ∘ Nat.succ = clauseAt? later := by
        funext i
        simp [clauseAt?_eq]
      rw [List.length_cons, List.range_succ_eq_map, List.filterMap_cons, List.filterMap_map,
        hlater, ih, clauseAt?_eq]
      obtain ⟨link, query?⟩ := item
      cases query? <;> rfl

theorem clauses_length (items : Items) : items.clauses.length = items.survivors.length := by
  rw [clauses, List.filterMap_length_eq_length]
  intro i hmember
  rw [clauseAt?_isSome]
  exact (List.mem_filter.mp hmember).2

end Items

theorem levelClauses_eq_clauses (items : Items) : levelClauses items = items.clauses := by
  rw [levelClauses_eq_settledClauses, Items.clauses_eq_settledClauses]

theorem levelQuery?_of_no_survivors {items : Items} (h : items.survivors = []) :
    levelQuery? items = none := by
  have hclauses : levelClauses items = [] := by
    rw [levelClauses_eq_clauses, Items.clauses, h]
    rfl
  simp [levelQuery?, hclauses]

/-- The first item stays as it is if it is the only one with words and has no modifier. -/
theorem levelQuery?_of_bare_first {link : Link} {q : Query} {later : Items}
    (h : Items.survivors ((link, some q) :: later) = [0]) (hmodifier : link.modifier = none) :
    levelQuery? ((link, some q) :: later) = some q := by
  have hclauses : levelClauses ((link, some q) :: later) =
      [(link.occurrenceUnder (Items.deciding later), q)] := by
    rw [levelClauses_eq_clauses, Items.clauses, h, List.filterMap_cons, Items.clauseAt?_eq]
    rfl
  obtain ⟨conjunction, modifier⟩ := link
  obtain rfl : modifier = none := hmodifier
  simp [levelQuery?, hclauses]

theorem levelQuery?_of_survivors {items : Items} (hsome : items.survivors ≠ [])
    (hfirst : items.survivors = [0] → ∀ item ∈ items.head?, item.1.modifier ≠ none) :
    levelQuery? items = some (.boolean items.clauses) := by
  have hlength := items.clauses_length
  unfold levelQuery?
  rw [levelClauses_eq_clauses]
  split
  · rename_i hclauses
    rw [hclauses, eq_comm, List.length_nil, List.length_eq_zero_iff] at hlength
    exact absurd hlength hsome
  · -- The only clause would have to be that of the first item, which has a modifier.
    rename_i q conjunction first later hclauses
    have hmember : 0 ∈ Items.survivors ((⟨conjunction, none⟩, some first) :: later) := by
      simp [Items.survivors, Items.survives]
    rw [hclauses] at hlength
    obtain ⟨place, honly⟩ := List.length_eq_one_iff.mp hlength.symm
    rw [honly, List.mem_singleton] at hmember
    rw [← hmember] at honly
    exact absurd rfl (hfirst honly _ rfl)
  · rfl

/-- A level that has been read to its end: the inside of a group once its parenthesis has been
closed, or a whole expression. What is written after it may still be wrong. -/
inductive Level.Parsed : Level → Prop where
  | group {ts : List Token} {groups : List OpenGroup} {before level : Level} {link : Link}
      (hrun : ts.foldlM Reading.step .start = .ok ⟨groups, before, .boost link level⟩) :
      Level.Parsed level
  | whole {ts : List Token} {level : Level} (hread : Level.read ts = .ok level) : Level.Parsed level

theorem Level.Parsed.head_conjunction {level : Level} (h : level.Parsed) :
    ∀ item ∈ level.head?, item.1.conjunction = none := by
  have hfirst {ks : List Kind} (hlevel : level.Spelled ks) :
      ∀ item ∈ level.head?, item.1.conjunction = none := by
    intro item hitem
    have hconjunction := hlevel.head?_conjunction
    rw [Option.mem_def.mp hitem] at hconjunction
    exact Option.some.inj hconjunction
  cases h with
  | group hrun =>
      obtain ⟨hread, -⟩ := (Reading.hasRead_begin .nothing).run (Nat.zero_le _) hrun
      generalize [] ++ List.map Token.kind _ = ks at hread
      cases hread with
      | boost _ _ hgroup => exact hfirst hgroup
  | whole hread =>
      rcases (Level.read_eq_ok_iff _ _).mp hread with ⟨-, rfl⟩ | ⟨hlevel, -⟩
      · simp
      · exact hfirst hlevel

/-- The query of a level, said of all its items at once. Without words in any item there is none; a
first item without modifier that is the only one with words is the query itself; otherwise the query
is a boolean of the items with words, in order, and each of them occurs as its modifier and the
conjunctions up to the next one decide. -/
theorem Level.parsed_query_by_place (t : Target) {level : Level} (hparsed : level.Parsed) :
    let items : Items := Level.queries t level
    (∀ item ∈ items.head?, item.1.conjunction = none) ∧
      (items.survivors = [] → level.query? t = none) ∧
      (∀ link q later, items = (link, some q) :: later → items.survivors = [0] →
        link.modifier = none → level.query? t = some q) ∧
      (items.survivors ≠ [] →
        (items.survivors = [0] → ∀ item ∈ items.head?, item.1.modifier ≠ none) →
        level.query? t = some (.boolean items.clauses)) := by
  intro items
  refine ⟨?_, levelQuery?_of_no_survivors, ?_, levelQuery?_of_survivors⟩
  · intro item hfirst
    simp only [items, Level.queries_eq_map, List.head?_map, Option.mem_def,
      Option.map_eq_some_iff] at hfirst
    obtain ⟨source, hsource, rfl⟩ := hfirst
    exact hparsed.head_conjunction source hsource
  · intro link q later hitems hbare hmodifier
    rw [hitems] at hbare
    rw [Level.query?, ← levelQuery?_of_bare_first hbare hmodifier, ← hitems]

/-- In `cool OR the stuf* AND !odd~ fine~`, the common word has no query and still joins the words
around it, the exclusion stays, and the last word is decided by itself. -/
theorem Level.parsed_query_by_place_with_common_word :
    let t : Target := ⟨"summary", .english⟩
    let words : List Kind := [.word "cool", .or, .word "the", .word "stuf*", .and, .bang,
      .word "odd~", .word "fine~"]
    let plain (body : String) : Node := .word ⟨body, none, none⟩
    let level : Level := [(⟨none, none⟩, plain "cool"), (⟨some .or, none⟩, plain "the"),
      (⟨none, none⟩, plain "stuf*"),
      (⟨some .and, some .prohibited⟩, .word ⟨"odd", some .half, none⟩),
      (⟨none, none⟩, .word ⟨"fine", some .half, none⟩)]
    let items : Items := Level.queries t level
    Level.read (words.map fun kind => ⟨kind, 0, 0⟩) = .ok level ∧ items.survivors = [0, 2, 3, 4] ∧
      items.clauses.map Prod.fst = [.should, .must, .mustNot, .must] ∧
      level.query? t = some (.boolean items.clauses) := by
  intro t words plain level items
  have hread : Level.read (words.map fun kind => ⟨kind, 0, 0⟩) = .ok level := rfl
  have hsurvivors : items.survivors = [0, 2, 3, 4] := by decide +kernel
  obtain ⟨-, -, -, hboolean⟩ := Level.parsed_query_by_place t (.whole hread)
  refine ⟨hread, hsurvivors, by decide +kernel, hboolean ?_ ?_⟩
  · rw [hsurvivors]
    nofun
  · rw [hsurvivors]
    nofun

end FilterCompiler.FreeText
