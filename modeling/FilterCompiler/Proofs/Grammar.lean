import FilterCompiler.FreeText.Reading

/-!
The grammar of free-text expressions, said without reference to how they are read:

level = modifier? term (conjunction? modifier? term)* term  = word | phrase | '(' level ')' boost?

A rule relates a tree to the tokens that spell it. Where tokens begin and end does not matter, so
the rules are about their kinds. How numbers are written is taken from the readers of weights and
whole numbers. Groups may be nested as deep as one likes here; `nesting` says how deep they are.
-/

namespace FilterCompiler

theorem bind_eq_ok_iff {ε α β : Type} {x : Except ε α} {f : α → Except ε β} {b : β} :
    (x >>= f) = .ok b ↔ ∃ a, x = .ok a ∧ f a = .ok b := by
  cases x <;> simp [bind, Except.bind]

theorem map_eq_ok_iff {ε α β : Type} {x : Except ε α} {f : α → β} {b : β} :
    x.map f = .ok b ↔ ∃ a, x = .ok a ∧ f a = b := by
  cases x <;> simp [Except.map]

theorem toOption_eq_some_iff {ε α : Type} {x : Except ε α} {a : α} :
    x.toOption = some a ↔ x = .ok a := by
  cases x <;> simp [Except.toOption]

namespace Text

/-- A mark and what is written after it, or nothing. -/
def marked (mark : Char) : Option (List Char) → List Char
  | none => []
  | some raw => mark :: raw

theorem splitFirst_cons (c x : Char) (cs : List Char) :
    splitFirst c (x :: cs) =
      if x = c then ([], some cs) else (x :: (splitFirst c cs).1, (splitFirst c cs).2) := by
  unfold splitFirst
  by_cases hx : x = c
  · simp [hx]
  · simp only [List.dropWhile_cons, List.takeWhile_cons, bne_iff_ne, ne_eq, hx, not_false_eq_true,
      if_true, if_false]
    split <;> rfl

/-- Every text can be cut at the first mark, if there is one. -/
theorem exists_marked (c : Char) (cs : List Char) :
    ∃ before after, cs = before ++ marked c after ∧ c ∉ before := by
  induction cs with
  | nil => exact ⟨[], none, rfl, by simp⟩
  | cons x cs ih =>
      by_cases hx : x = c
      · exact ⟨[], some cs, by simp [marked, hx], by simp⟩
      · obtain ⟨before, after, rfl, hbefore⟩ := ih
        exact ⟨x :: before, after, rfl, by simp [hbefore, Ne.symm hx]⟩

theorem splitFirst_marked {c : Char} {before : List Char} (h : c ∉ before)
    (after : Option (List Char)) : splitFirst c (before ++ marked c after) = (before, after) := by
  induction before with
  | nil =>
      cases after with
      | none => rfl
      | some raw => simp [marked, splitFirst_cons]
  | cons x before ih =>
      simp only [List.mem_cons, not_or] at h
      rw [List.cons_append, splitFirst_cons, ih h.2, if_neg (Ne.symm h.1)]

end Text

/-- A boost is written as a number that is finite and not negative. -/
def Weight.IsBoost (w : Weight) (raw : List Char) : Prop :=
  Weight.read? raw = some w ∧ w.isFinite = true ∧ w.isNonnegative = true

/-- A similarity is not written at all, or as a number from zero up to, but not including, one. -/
def Weight.IsSimilarity (w : Weight) (raw : List Char) : Prop :=
  (raw = [] ∧ w = .half) ∨
    (Weight.read? raw = some w ∧ w.isNonnegative = true ∧ w.isBelowOne = true)

namespace FreeText

open Text (marked exists_marked splitFirst_marked)

/-- A word is `body~similarity^boost`, the last two being optional. It is cut at the first caret and
what stands before that at the first tilde, so the body holds neither and the similarity no caret.
Without a similarity, the body may be a pattern, though none that starts with a wild card. -/
inductive Word.Spelled : Word → List Char → Prop where
  | mk {body : List Char} {similarity boost : Option Weight}
      {rawSimilarity rawBoost : Option (List Char)}
      (hbody : body ≠ []) (htilde : '~' ∉ body) (hcaret : '^' ∉ body ++ marked '~' rawSimilarity)
      (hsimilarity : Option.Rel Weight.IsSimilarity similarity rawSimilarity)
      (hboost : Option.Rel Weight.IsBoost boost rawBoost)
      (hpattern : rawSimilarity = none → body.head? ≠ some '*' ∧ body.head? ≠ some '?') :
      Word.Spelled ⟨String.ofList body, similarity, boost⟩
        (body ++ marked '~' rawSimilarity ++ marked '^' rawBoost)

/-- The slop of a phrase is a whole number of 32 bits, and zero if it is not written. -/
def IsSlop (slop : Nat) : Option (List Char) → Prop
  | none => slop = 0
  | some raw => Text.readNatBelow? (1 <<< 32) raw = some slop

/-- A phrase is a quoted text and after it `~slop^boost`, both being optional. -/
inductive Quote.Spelled : Quote → String → List Char → Prop where
  | mk {text : String} {slop : Nat} {boost : Option Weight}
      {rawSlop rawBoost : Option (List Char)}
      (hcaret : '^' ∉ marked '~' rawSlop) (hslop : IsSlop slop rawSlop)
      (hboost : Option.Rel Weight.IsBoost boost rawBoost) :
      Quote.Spelled ⟨text, slop, boost⟩ text (marked '~' rawSlop ++ marked '^' rawBoost)

inductive Conjunction.Spelled : Option Conjunction → List Kind → Prop where
  | none : Conjunction.Spelled none []
  | and : Conjunction.Spelled (some .and) [.and]
  | or : Conjunction.Spelled (some .or) [.or]

inductive Modifier.Spelled : Option Modifier → List Kind → Prop where
  | none : Modifier.Spelled none []
  | plus : Modifier.Spelled (some .required) [.plus]
  | minus : Modifier.Spelled (some .prohibited) [.minus]
  | bang : Modifier.Spelled (some .prohibited) [.bang]
  | not : Modifier.Spelled (some .prohibited) [.not]

mutual

inductive Node.Spelled : Node → List Kind → Prop where
  | word {w : Word} {text : String} (hword : w.Spelled text.toList) :
      Node.Spelled (.word w) [.word text]
  | quote {q : Quote} {text suffix : String} (hquote : q.Spelled text suffix.toList) :
      Node.Spelled (.quote q) [.phrase text suffix]
  | group {level : Level} {ks : List Kind} (hlevel : Level.Spelled level ks) :
      Node.Spelled (.group level none) (.opening :: ks ++ [.closing])
  | boosted {level : Level} {ks : List Kind} {boost : Weight} {raw : String}
      (hlevel : Level.Spelled level ks) (hboost : boost.IsBoost raw.toList) :
      Node.Spelled (.group level (some boost)) (.opening :: ks ++ [.closing, .boost raw])

inductive Level.Spelled : Level → List Kind → Prop where
  | first {modifier : Option Modifier} {node : Node} {ms ks : List Kind}
      (hmodifier : Modifier.Spelled modifier ms) (hnode : Node.Spelled node ks) :
      Level.Spelled [(⟨none, modifier⟩, node)] (ms ++ ks)
  | next {level : Level} {conjunction : Option Conjunction} {modifier : Option Modifier}
      {node : Node} {before cs ms ks : List Kind} (hlevel : Level.Spelled level before)
      (hconjunction : Conjunction.Spelled conjunction cs) (hmodifier : Modifier.Spelled modifier ms)
      (hnode : Node.Spelled node ks) :
      Level.Spelled (level ++ [(⟨conjunction, modifier⟩, node)]) (before ++ (cs ++ ms) ++ ks)

end

/-- A number that is kept if it passes a test. -/
theorem tested_eq_ok_iff (test : Weight → Bool) {v w : Weight} {fault : Fault} :
    (if test v then .ok v else .error fault : Except Fault Weight) = .ok w ↔
      v = w ∧ test w = true := by
  cases htest : test v with
  | true =>
      simp only [if_true, Except.ok.injEq, iff_self_and]
      rintro rfl
      exact htest
  | false =>
      simp only [Bool.false_eq_true, if_false, reduceCtorEq, false_iff]
      rintro ⟨rfl, hpassed⟩
      rw [htest] at hpassed
      cases hpassed

theorem readBoost_eq_ok_iff (position : Nat) (raw : List Char) (w : Weight) :
    readBoost position raw = .ok w ↔ w.IsBoost raw := by
  unfold readBoost Weight.IsBoost
  cases Weight.read? raw with
  | none => simp
  | some v =>
      rw [Option.some.injEq, ← Bool.and_eq_true]
      exact tested_eq_ok_iff fun w => w.isFinite && w.isNonnegative

theorem readSimilarity_eq_ok_iff (position : Nat) (raw : List Char) (w : Weight) :
    readSimilarity position raw = .ok w ↔ w.IsSimilarity raw := by
  unfold readSimilarity Weight.IsSimilarity
  cases raw with
  | nil =>
      have hread : Weight.read? [] = none := rfl
      simp only [List.isEmpty_nil, if_true, Except.ok.injEq, hread, reduceCtorEq, false_and,
        or_false, true_and]
      exact eq_comm
  | cons c cs =>
      simp only [List.isEmpty_cons, Bool.false_eq_true, if_false, reduceCtorEq, false_and, false_or]
      cases Weight.read? (c :: cs) with
      | none => simp
      | some v =>
          rw [Option.some.injEq, ← Bool.and_eq_true]
          exact tested_eq_ok_iff fun w => w.isNonnegative && w.isBelowOne

theorem readBoost?_eq_ok_iff (position : Nat) (raw : Option (List Char)) (w : Option Weight) :
    readBoost? position raw = .ok w ↔ Option.Rel Weight.IsBoost w raw := by
  cases raw <;> cases w <;> simp [readBoost?, map_eq_ok_iff, readBoost_eq_ok_iff]

theorem readSimilarity?_eq_ok_iff (position : Nat) (raw : Option (List Char)) (w : Option Weight) :
    readSimilarity? position raw = .ok w ↔ Option.Rel Weight.IsSimilarity w raw := by
  cases raw <;> cases w <;> simp [readSimilarity?, map_eq_ok_iff, readSimilarity_eq_ok_iff]

theorem isWild_iff (c : Char) : isWild c = true ↔ c = '*' ∨ c = '?' := by
  rw [isWild, Bool.or_eq_true, beq_iff_eq, beq_iff_eq]

theorem any_isWild_iff (cs : List Char) : cs.any isWild = true ↔ '*' ∈ cs ∨ '?' ∈ cs := by
  simp [List.any_eq_true, isWild_iff, and_or_left, exists_or]

theorem head?_isWild_eq_false_iff (cs : List Char) :
    cs.head?.any isWild = false ↔ cs.head? ≠ some '*' ∧ cs.head? ≠ some '?' := by
  rw [← Bool.not_eq_true, ← not_or]
  apply not_congr
  cases cs <;> simp [isWild_iff]

/-- Words are read exactly when they are well formed. -/
theorem Word.read_eq_ok_iff (position : Nat) (raw : List Char) (w : Word) :
    Word.read position raw = .ok w ↔ w.Spelled raw := by
  constructor
  · intro h
    obtain ⟨term, rawBoost, rfl, hcaret⟩ := exists_marked '^' raw
    obtain ⟨body, rawSimilarity, rfl, htilde⟩ := exists_marked '~' term
    simp only [Word.read, splitFirst_marked hcaret, splitFirst_marked htilde, bind_eq_ok_iff,
      readBoost?_eq_ok_iff, readSimilarity?_eq_ok_iff] at h
    obtain ⟨boost, hboost, similarity, hsimilarity, h⟩ := h
    split at h
    · cases h
    split at h
    · cases h
    rename_i hbody hpattern
    obtain rfl := Except.ok.inj h
    refine .mk (by simpa using hbody) htilde hcaret hsimilarity hboost ?_
    rintro rfl
    cases hsimilarity
    rw [← head?_isWild_eq_false_iff]
    simpa using hpattern
  · rintro ⟨hbody, htilde, hcaret, hsimilarity, hboost, hpattern⟩
    rename_i body similarity boost rawSimilarity rawBoost
    simp only [Word.read, splitFirst_marked hcaret, splitFirst_marked htilde, bind_eq_ok_iff,
      readBoost?_eq_ok_iff, readSimilarity?_eq_ok_iff]
    refine ⟨boost, hboost, similarity, hsimilarity, ?_⟩
    rw [if_neg (by simpa using hbody), if_neg]
    intro hleading
    rw [Bool.and_eq_true] at hleading
    cases hsimilarity with
    | some => cases hleading.1
    | none =>
        have hhead := (head?_isWild_eq_false_iff body).mpr (hpattern rfl)
        rw [hhead] at hleading
        cases hleading.2

theorem readSlop_eq_ok_iff (position : Nat) (raw : List Char) (slop : Nat) :
    readSlop position raw = .ok slop ↔
      ∃ rawSlop, raw = marked '~' rawSlop ∧ IsSlop slop rawSlop := by
  constructor
  · intro h
    unfold readSlop at h
    split at h
    · obtain rfl := Except.ok.inj h
      exact ⟨none, rfl, rfl⟩
    · rename_i raw
      split at h
      · rename_i hread
        obtain rfl := Except.ok.inj h
        exact ⟨some raw, rfl, hread⟩
      · cases h
    · cases h
  · rintro ⟨rawSlop, rfl, hslop⟩
    cases rawSlop with
    | none => rw [hslop]; rfl
    | some raw =>
        rw [IsSlop] at hslop
        simp only [marked, readSlop, hslop]

/-- Phrases are read exactly when what follows the quoted text is well formed. -/
theorem Quote.read_eq_ok_iff (position : Nat) (text : String) (raw : List Char) (q : Quote) :
    Quote.read position text raw = .ok q ↔ q.Spelled text raw := by
  constructor
  · intro h
    obtain ⟨beforeBoost, rawBoost, rfl, hcaret⟩ := exists_marked '^' raw
    simp only [Quote.read, splitFirst_marked hcaret, bind_eq_ok_iff, readBoost?_eq_ok_iff,
      readSlop_eq_ok_iff] at h
    obtain ⟨boost, hboost, slop, ⟨rawSlop, rfl, hslop⟩, h⟩ := h
    obtain rfl := Except.ok.inj h
    exact .mk hcaret hslop hboost
  · rintro ⟨hcaret, hslop, hboost⟩
    rename_i slop boost rawSlop rawBoost
    simp only [Quote.read, splitFirst_marked hcaret, bind_eq_ok_iff, readBoost?_eq_ok_iff,
      readSlop_eq_ok_iff]
    exact ⟨boost, hboost, slop, ⟨rawSlop, rfl, hslop⟩, rfl⟩

/-- The number of open groups after a token. -/
def Kind.openAfter (opened : Nat) : Kind → Nat
  | .opening => opened + 1
  | .closing => opened - 1
  | _ => opened

/-- The greatest number of groups that are open at once, when some are open before the tokens. -/
def nestingFrom (opened : Nat) : List Kind → Nat
  | [] => opened
  | k :: ks => max opened (nestingFrom (k.openAfter opened) ks)

/-- How deep the groups of an expression are nested. -/
def nesting (ks : List Kind) : Nat := nestingFrom 0 ks

theorem opened_le_nestingFrom (opened : Nat) (ks : List Kind) : opened ≤ nestingFrom opened ks := by
  cases ks with
  | nil => exact Nat.le_refl _
  | cons => exact Nat.le_max_left _ _

theorem nestingFrom_append (opened : Nat) (ks ls : List Kind) :
    nestingFrom opened (ks ++ ls) =
      max (nestingFrom opened ks) (nestingFrom (ks.foldl Kind.openAfter opened) ls) := by
  induction ks generalizing opened with
  | nil =>
      have := opened_le_nestingFrom opened ls
      simp only [List.nil_append, nestingFrom, List.foldl_nil]
      omega
  | cons k ks ih => simp only [List.cons_append, nestingFrom, ih, List.foldl_cons, Nat.max_assoc]

theorem Kind.openAfter_le {k : Kind} (h : k ≠ .opening) (opened : Nat) :
    k.openAfter opened ≤ opened := by
  cases k with
  | opening => exact absurd rfl h
  | closing => exact Nat.sub_le opened 1
  | _ => exact Nat.le_refl opened

theorem foldl_openAfter_le_nestingFrom (opened : Nat) (ks : List Kind) :
    ks.foldl Kind.openAfter opened ≤ nestingFrom opened ks := by
  have hnil := nestingFrom_append opened ks []
  rw [List.append_nil, nestingFrom] at hnil
  omega

/-- One more token counts by the groups that are open after it. -/
theorem nesting_concat (ks : List Kind) (k : Kind) :
    nesting (ks ++ [k]) = max (nesting ks) (k.openAfter (ks.foldl Kind.openAfter 0)) := by
  have hopened := foldl_openAfter_le_nestingFrom 0 ks
  simp only [nesting, nestingFrom_append, nestingFrom]
  omega

theorem Conjunction.Spelled.balanced {conjunction : Option Conjunction} {cs : List Kind}
    (h : Conjunction.Spelled conjunction cs) (opened : Nat) :
    cs.foldl Kind.openAfter opened = opened := by
  cases h <;> rfl

theorem Modifier.Spelled.balanced {modifier : Option Modifier} {ms : List Kind}
    (h : Modifier.Spelled modifier ms) (opened : Nat) :
    ms.foldl Kind.openAfter opened = opened := by
  cases h <;> rfl

mutual

theorem Node.Spelled.balanced {node : Node} {ks : List Kind} (h : node.Spelled ks) (opened : Nat) :
    ks.foldl Kind.openAfter opened = opened :=
  match h with
  | .word _ | .quote _ => rfl
  | .group hlevel | .boosted hlevel _ => by simp [Kind.openAfter, hlevel.balanced]

/-- A level closes every group that it opens. -/
theorem Level.Spelled.balanced {level : Level} {ks : List Kind} (h : level.Spelled ks)
    (opened : Nat) : ks.foldl Kind.openAfter opened = opened :=
  match h with
  | .first hmodifier hnode => by simp [hmodifier.balanced, hnode.balanced]
  | .next hlevel hconjunction hmodifier hnode => by
      simp [hlevel.balanced, hconjunction.balanced, hmodifier.balanced, hnode.balanced]

end

theorem Level.Spelled.ne_nil {level : Level} {ks : List Kind} (h : level.Spelled ks) : ks ≠ [] := by
  cases h with
  | first _ hnode | next _ _ _ hnode => cases hnode <;> simp

/-- The first item of a level has no conjunction before it. -/
theorem Level.Spelled.head?_conjunction {level : Level} {ks : List Kind} (h : level.Spelled ks) :
    level.head?.map (fun item => item.1.conjunction) = some none :=
  match h with
  | .first _ _ => rfl
  | .next hlevel _ _ _ => by
      rw [List.head?_append, Option.map_or, hlevel.head?_conjunction, Option.some_or]

/-- Two levels one after the other are a level. -/
theorem Level.Spelled.append {a b : Level} {ks ls : List Kind} (ha : a.Spelled ks)
    (hb : b.Spelled ls) : (a ++ b).Spelled (ks ++ ls) :=
  match hb with
  | .first hmodifier hnode => by simpa using Level.Spelled.next ha .none hmodifier hnode
  | .next hlevel hconjunction hmodifier hnode => by
      simpa using Level.Spelled.next (ha.append hlevel) hconjunction hmodifier hnode

/-- Of levels one after the other, the deepest counts. -/
theorem Level.Spelled.nesting_append {level : Level} {ks : List Kind} (h : level.Spelled ks)
    (ls : List Kind) : nesting (ks ++ ls) = max (nesting ks) (nesting ls) := by
  rw [nesting, nestingFrom_append, h.balanced]
  rfl

end FreeText

end FilterCompiler
