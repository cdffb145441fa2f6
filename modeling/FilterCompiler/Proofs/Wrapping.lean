import FilterCompiler.Proofs.Acceptance
import FilterCompiler.Proofs.Scanning

/-!
Texts in quotes and expressions in parentheses. Every text can be searched for as it stands:
between quotes, with its own quotes and backslashes escaped, it is a single token.
Parentheses around a whole expression leave its meaning alone, however many there are, as
long as the groups do not get too deep.
-/

namespace FilterCompiler.FreeText

/-- A level of one item with nothing before it. -/
def Level.bare (node : Node) : Level := [(⟨none, none⟩, node)]

/-- It asks for what its item asks for. -/
theorem Level.bare_query? (t : Target) (node : Node) : (bare node).query? t = node.query? t := by
  rw [Level.query?, bare, Level.queries, Level.queries]
  cases node.query? t <;> rfl

theorem Level.bare_spelled {node : Node} {ks : List Kind} (h : node.Spelled ks) :
    (bare node).Spelled ks := by
  simpa [bare] using Level.Spelled.first .none h

theorem map_boosted_none (q : Option Query) : q.map (boosted none) = q := by
  cases q <;> rfl

/-- A backslash before each quote and each backslash. -/
def escaped (cs : List Char) : List Char :=
  cs.flatMap fun c => if c = '"' ∨ c = '\\' then ['\\', c] else [c]

/-- A text in quotes. -/
def inQuotes (text : String) : String := String.ofList ('"' :: escaped text.toList ++ ['"'])

theorem escaped_unescapes (cs : List Char) : Unescapes (escaped cs) cs := by
  induction cs with
  | nil => exact .nothing
  | cons c cs ih =>
      rw [escaped, List.flatMap_cons, ← escaped]
      by_cases hc : c = '"' ∨ c = '\\'
      · rw [if_pos hc]
        exact .escape c ih
      · obtain ⟨hquote, hescape⟩ := not_or.mp hc
        rw [if_neg hc]
        exact .plain hquote hescape ih

/-- The quotation of an escaped text ends with the quote after it and not before. -/
theorem quotation?_escaped (cs rest : List Char) :
    quotation? (escaped cs ++ '"' :: rest) = some ⟨cs, escaped cs ++ ['"'], rest⟩ :=
  (escaped_unescapes cs).quotation? rest

theorem tokens_inQuotes (text : String) :
    tokens (inQuotes text) =
      .ok [⟨.phrase text "", 0, byteLength (inQuotes text).toList⟩] := by
  have hscan : scan? ('"' :: (escaped text.toList ++ ['"'])) =
      some ⟨.phrase text "", '"' :: escaped text.toList ++ ['"'], []⟩ := by
    rw [scan?, quotation?_escaped]
    simp [wordPart, afterWord]
  rw [tokens, inQuotes, String.toList_ofList, List.cons_append, tokensFrom_scan rfl hscan,
    tokensFrom]
  simp [Except.map]

/-- A text in quotes is one token with that text and nothing after it, and is asked for as the words
that it has, in their order. Whatever stands behind it, the quotation is closed by the last quote:
no text ends it earlier or leaves it open. -/
theorem Target.quoted_text_taken_whole (t : Target) (text : String) :
    tokens (inQuotes text) = .ok [⟨.phrase text "", 0, byteLength (inQuotes text).toList⟩] ∧
      t.parse (inQuotes text) =
        .ok (match t.analyzer.words text with
          | [] => .nothing
          | [word] => .ofTerm t.field word
          | words => .phrase ⟨t.field, words, 0⟩) ∧
      ∀ rest, quotation? (escaped text.toList ++ '"' :: rest) =
        some ⟨text.toList, escaped text.toList ++ ['"'], rest⟩ := by
  refine ⟨tokens_inQuotes text, ?_, quotation?_escaped text.toList⟩
  have hlevel (stop : Nat) :
      Level.read [⟨.phrase text "", 0, stop⟩] = .ok (.bare (.quote ⟨text, 0, none⟩)) := rfl
  rw [Target.parse, tokens_inQuotes]
  simp only [bind, Except.bind, hlevel, Level.bare_query?]
  rw [Node.query?, Target.quote?, map_boosted_none]
  change Except.ok ((t.words? 0 text).getD .nothing) = _
  rw [Target.words?]
  cases t.analyzer.words text with
  | nil => rfl
  | cons word words => cases words <;> rfl

/-- An expression in pairs of parentheses. -/
def inParentheses : Nat → String → String
  | 0, text => text
  | pairs + 1, text => "(" ++ inParentheses pairs text ++ ")"

/-- The text spells an expression that asks for `q?`, with its groups nested up to some depth. -/
def Target.Asks (t : Target) (text : String) (depth : Nat) (q? : Option Query) : Prop :=
  ∃ ks level, Tokenized text.toList ks ∧ Level.Spelled level ks ∧ nesting ks ≤ depth ∧
    level.query? t = q?

/-- One more open group adds at most one to the nesting. -/
theorem nestingFrom_le_succ (ks : List Kind) {a b : Nat} (h : a ≤ b + 1) :
    nestingFrom a ks ≤ nestingFrom b ks + 1 := by
  induction ks generalizing a b with
  | nil => exact h
  | cons k ks ih =>
      have hnext : k.openAfter a ≤ k.openAfter b + 1 := by
        cases k with
        | opening | closing =>
            simp only [Kind.openAfter]
            omega
        | _ => exact h
      have hrest := ih hnext
      simp only [nestingFrom]
      omega

theorem Level.Spelled.nesting_group {level : Level} {ks : List Kind} (h : level.Spelled ks) :
    nesting (.opening :: ks ++ [.closing]) ≤ nesting ks + 1 := by
  have hopened := opened_le_nestingFrom (0 + 1) ks
  have hinside : nestingFrom (0 + 1) ks ≤ nestingFrom 0 ks + 1 :=
    nestingFrom_le_succ ks (Nat.le_refl _)
  simp only [nesting, List.cons_append, nestingFrom, nestingFrom_append, Kind.openAfter, h.balanced]
  omega

namespace Target

variable {t : Target} {text : String} {depth : Nat} {q? : Option Query}

/-- A pair of parentheses around an expression makes it a group, which asks for the same. -/
theorem Asks.group (h : t.Asks text depth q?) : t.Asks ("(" ++ text ++ ")") (depth + 1) q? := by
  obtain ⟨ks, level, htokens, hlevel, hnesting, hquery⟩ := h
  refine ⟨.opening :: ks ++ [.closing], .bare (.group level none), ?_, ?_, ?_, ?_⟩
  · have hopening : Tokenized ('(' :: text.toList) (.opening :: ks) :=
      .token (s := ⟨.opening, ['('], text.toList⟩) rfl rfl htokens
    have hclosing : Tokenized [')'] [.closing] :=
      .token (s := ⟨.closing, [')'], []⟩) rfl rfl .nothing
    rw [String.toList_append, String.toList_append]
    exact hopening.append rfl hclosing
  · exact Level.bare_spelled (.group hlevel)
  · have hgroup := hlevel.nesting_group
    omega
  · rw [Level.bare_query?, Node.query?, map_boosted_none]
    exact hquery

theorem Asks.inParentheses (h : t.Asks text depth q?) (pairs : Nat) :
    t.Asks (inParentheses pairs text) (pairs + depth) q? := by
  induction pairs with
  | zero => rwa [Nat.zero_add]
  | succ pairs ih =>
      rw [Nat.add_right_comm]
      exact ih.group

/-- What an expression asks for is what is read, if there is room for its groups. -/
theorem Asks.parse_eq_ok (h : t.Asks text depth q?) (hdepth : depth ≤ maxDepth) :
    t.parse text = .ok (q?.getD .nothing) := by
  obtain ⟨ks, level, htokens, hlevel, hnesting, rfl⟩ := h
  obtain ⟨ts, hts, rfl⟩ := (tokenized_iff 0).mp htokens
  have hread := (Level.read_eq_ok_iff ts level).mpr (Or.inr ⟨hlevel, by omega⟩)
  rw [Target.parse, tokens, hts]
  simp only [bind, Except.bind, hread]

/-- A text with tokens that can be read is an expression. -/
theorem asks_of_parse_eq_ok {ts : List Token} (htokens : tokens text = .ok ts) (hsome : ts ≠ [])
    {q : Query} (hparse : t.parse text = .ok q) :
    ∃ q?, t.Asks text (nesting (ts.map Token.kind)) q? ∧ q?.getD .nothing = q := by
  simp only [Target.parse, htokens, bind_eq_ok_iff, Except.ok.injEq, exists_eq_left'] at hparse
  obtain ⟨level, hread, hquery⟩ := hparse
  rcases (Level.read_eq_ok_iff ts level).mp hread with ⟨hnone, -⟩ | ⟨hlevel, -⟩
  · exact absurd hnone hsome
  · have hkinds : Tokenized text.toList (ts.map Token.kind) :=
      (tokenized_iff 0).mpr ⟨ts, htokens, rfl⟩
    exact ⟨_, ⟨_, level, hkinds, hlevel, Nat.le_refl _, rfl⟩, hquery⟩

/-- Parentheses around a whole expression leave its query as it is, be it a single clause, several
ones or nothing at all, as long as they and the groups inside are not nested deeper than 256. -/
theorem parentheses_keep_query (t : Target) (text : String) (ts : List Token)
    (htokens : tokens text = .ok ts) (hsome : ts ≠ []) (q : Query) (hparse : t.parse text = .ok q)
    (pairs : Nat) (hdepth : pairs + nesting (ts.map Token.kind) ≤ 256) :
    t.parse (FreeText.inParentheses pairs text) = .ok q := by
  obtain ⟨q?, hasks, rfl⟩ := asks_of_parse_eq_ok htokens hsome hparse
  exact (hasks.inParentheses pairs).parse_eq_ok hdepth

/-- The group of a common word asks for nothing, and the prohibited phrase is what is left; with 255
pairs around them, 256 groups are open at the common word. -/
theorem parentheses_keep_query_at_full_depth :
    let t : Target := ⟨"summary", .english⟩
    let text := "(the) -\"Cool Stuff\"~2"
    let ts : List Token := [⟨.opening, 0, 1⟩, ⟨.word "the", 1, 4⟩, ⟨.closing, 4, 5⟩, ⟨.minus, 6, 7⟩,
      ⟨.phrase "Cool Stuff" "~2", 7, 21⟩]
    let q : Query := .boolean [(.mustNot, .phrase ⟨"summary", ["cool", "stuff"], 2⟩)]
    tokens text = .ok ts ∧ t.parse text = .ok q ∧ 255 + nesting (ts.map Token.kind) ≤ 256 ∧
      t.parse (FreeText.inParentheses 255 text) = .ok q := by
  intro t text ts q
  have htokens : tokens text = .ok ts := toOption_eq_some_iff.mp (by decide +kernel)
  have hparse : t.parse text = .ok q := by
    rw [Target.parse, htokens]
    rfl
  have hdepth : 255 + nesting (ts.map Token.kind) ≤ 256 := by decide
  exact ⟨htokens, hparse, hdepth,
    parentheses_keep_query t text ts htokens (List.cons_ne_nil _ _) q hparse 255 hdepth⟩

end Target

end FilterCompiler.FreeText
