import FilterCompiler.Proofs.Scanning

/-!
Where the tokens of a text stand. They follow one another without touching the same byte
twice, and what is left between them is white space, so the text is lost nowhere. The
characters under a token say alone what it is. Only a quotation that nobody closes stops the
reading, at the quote that opens it.
-/

namespace FilterCompiler.FreeText

variable {position : Nat} {c : Char} {cs ds rest lexeme : List Char} {kind : Kind} {ts : List Token}

theorem byteLength_append (cs ds : List Char) :
    byteLength (cs ++ ds) = byteLength cs + byteLength ds := by
  induction cs with
  | nil => exact (Nat.zero_add _).symm
  | cons c cs ih => rw [List.cons_append, byteLength, ih, byteLength, Nat.add_assoc]

/-- Characters have the length of the string that they make. -/
theorem byteLength_eq (cs : List Char) : byteLength cs = (String.ofList cs).utf8ByteSize := by
  induction cs with
  | nil => rfl
  | cons c cs ih =>
      rw [byteLength, ih, String.ofList_cons, String.utf8ByteSize_append,
        String.utf8ByteSize_singleton]

theorem byteLength_toList (s : String) : byteLength s.toList = s.utf8ByteSize := by
  rw [byteLength_eq, String.ofList_toList]

theorem byteLength_pos (hcs : cs ≠ []) : 0 < byteLength cs := by
  cases cs with
  | nil => exact absurd rfl hcs
  | cons c cs => exact Nat.add_pos_left c.utf8Size_pos _

/-- What a token says about the characters that it covers. -/
def Kind.Reads (span : List Char) : Kind → Prop
  | .word text => span = text.toList
  | .phrase text suffix =>
    ∃ inner, Unescapes inner text.toList ∧ span = '"' :: inner ++ '"' :: suffix.toList
  | .opening => span = ['(']
  | .closing => span = [')']
  | .plus => span = ['+']
  | .minus => span = ['-']
  | .bang => span = ['!']
  | .boost raw => span = '^' :: raw.toList
  | .and => span = "&&".toList ∨ span = "AND".toList
  | .or => span = "||".toList ∨ span = "OR".toList
  | .not => span = "NOT".toList

theorem Kind.ofWord_reads (text : String) : (Kind.ofWord text).Reads text.toList := by
  unfold Kind.ofWord
  split
  · exact .inr rfl
  · exact .inr rfl
  · rfl
  · rfl

theorem Lexeme.reads (h : Lexeme kind lexeme rest) : kind.Reads lexeme := by
  cases h with
  | @phrase inner text suffix _ hinner _ _ =>
      refine ⟨inner, ?_, ?_⟩
      · rwa [String.toList_ofList]
      · rw [String.toList_ofList]
  | boost _ _ => exact congrArg _ String.toList_ofList.symm
  | @word c cs _ _ _ _ _ =>
      have hreads := Kind.ofWord_reads (String.ofList (c :: cs))
      rwa [String.toList_ofList] at hreads
  | and | or => exact .inl rfl
  | _ => rfl

/-- A token starts with a character that is no white space. -/
theorem Lexeme.exists_cons (h : Lexeme kind lexeme rest) :
    ∃ c cs, lexeme = c :: cs ∧ Text.isBlank c = false := by
  cases h with
  | @word c cs _ hword _ _ _ =>
      refine ⟨c, cs, rfl, ?_⟩
      have hends := hword c List.mem_cons_self
      simp only [endsWord, Bool.or_eq_false_iff] at hends
      exact hends.1.1.1
  | _ => exact ⟨_, _, rfl, rfl⟩

/-- A text cut into tokens from byte `position` on, with white space between them. -/
inductive Cut : Nat → List Char → List Token → Prop where
  | nothing (position : Nat) : Cut position [] []
  | blank {position : Nat} {c : Char} {cs : List Char} {ts : List Token}
      (hc : Text.isBlank c = true) (hcs : Cut (position + c.utf8Size) cs ts) :
      Cut position (c :: cs) ts
  | token {position : Nat} {kind : Kind} {lexeme rest : List Char} {ts : List Token}
      (hlexeme : Lexeme kind lexeme rest) (hrest : Cut (position + byteLength lexeme) rest ts) :
      Cut position (lexeme ++ rest) (⟨kind, position, position + byteLength lexeme⟩ :: ts)

theorem tokensFrom_lexeme (h : Lexeme kind lexeme rest) (position : Nat) :
    tokensFrom position (lexeme ++ rest) =
      (tokensFrom (position + byteLength lexeme) rest).map
        (⟨kind, position, position + byteLength lexeme⟩ :: ·) := by
  have hscan := h.scan?
  obtain ⟨c, cs, rfl, hc⟩ := h.exists_cons
  exact tokensFrom_scan hc hscan position

theorem tokensFrom_eq_ok_iff : tokensFrom position cs = .ok ts ↔ Cut position cs ts := by
  constructor
  · intro h
    fun_induction tokensFrom position cs generalizing ts with
    | case1 =>
        obtain rfl := Except.ok.inj h
        exact .nothing _
    | case2 position c cs hc ih => exact .blank hc (ih h)
    | case3 => cases h
    | case4 => cases h
    | case5 position c cs hc s hs _ _ later hlater =>
        rename_i ih
        obtain rfl := Except.ok.inj h
        obtain ⟨hlexeme, hcs⟩ := lexeme_of_scan? (by simpa using hc) hs
        rw [hcs]
        exact .token hlexeme (ih hlater)
  · intro h
    induction h with
    | nothing => rw [tokensFrom]
    | blank hc _ ih => rw [tokensFrom_blank hc, ih]
    | token hlexeme _ ih =>
        rw [tokensFrom_lexeme hlexeme, ih]
        rfl

namespace Cut

theorem le_start (h : Cut position cs ts) : ∀ t ∈ ts, position ≤ t.start := by
  induction h with
  | nothing => nofun
  | blank _ _ ih => exact fun t ht => Nat.le_trans (Nat.le_add_right _ _) (ih t ht)
  | token _ _ ih =>
      intro t ht
      rcases List.mem_cons.mp ht with rfl | ht
      · exact Nat.le_refl _
      · exact Nat.le_trans (Nat.le_add_right _ _) (ih t ht)

/-- A token ends before the later ones start. -/
theorem pairwise (h : Cut position cs ts) : ts.Pairwise fun a b => a.stop ≤ b.start := by
  induction h with
  | nothing => exact .nil
  | blank _ _ ih => exact ih
  | token _ hrest ih => exact List.pairwise_cons.mpr ⟨hrest.le_start, ih⟩

/-- The characters that a token covers. -/
theorem exists_span (h : Cut position cs ts) : ∀ t ∈ ts, ∃ before span after,
    cs = before ++ span ++ after ∧ t.start = position + byteLength before ∧
      t.stop = position + byteLength (before ++ span) ∧ Lexeme t.kind span after := by
  induction h with
  | nothing => nofun
  | @blank position c cs ts _ _ ih =>
      intro t ht
      obtain ⟨before, span, after, rfl, hstart, hstop, hspan⟩ := ih t ht
      refine ⟨c :: before, span, after, rfl, ?_, ?_, hspan⟩
      · rw [hstart, byteLength, Nat.add_assoc]
      · rw [hstop, List.cons_append, byteLength, Nat.add_assoc]
  | @token position kind lexeme rest ts hlexeme _ ih =>
      intro t ht
      rcases List.mem_cons.mp ht with rfl | ht
      · exact ⟨[], lexeme, rest, rfl, rfl, rfl, hlexeme⟩
      · obtain ⟨before, span, after, rfl, hstart, hstop, hspan⟩ := ih t ht
        refine ⟨lexeme ++ before, span, after, ?_, ?_, ?_, hspan⟩
        · simp only [List.append_assoc]
        · rw [hstart, byteLength_append, Nat.add_assoc]
        · rw [hstop, List.append_assoc, byteLength_append lexeme, Nat.add_assoc]

/-- Between the tokens there is only white space. -/
theorem isBlank_of_uncovered (h : Cut position cs ts) {before after : List Char}
    (hcs : cs = before ++ c :: after)
    (huncovered : ∀ t ∈ ts, ¬(t.start ≤ position + byteLength before ∧
      position + byteLength before < t.stop)) : Text.isBlank c = true := by
  induction h generalizing before with
  | nothing => simp at hcs
  | @blank position d cs ts hd _ ih =>
      cases before with
      | nil =>
          obtain ⟨rfl, -⟩ := List.cons.inj hcs
          exact hd
      | cons b before =>
          obtain ⟨rfl, hrest⟩ := List.cons.inj hcs
          apply ih hrest
          rwa [Nat.add_assoc]
  | @token position kind lexeme rest ts _ _ ih =>
      obtain ⟨hfirst, hlater⟩ := List.forall_mem_cons.mp huncovered
      -- The first token covers what its lexeme reaches; the rest is left to the later ones.
      have hreached : byteLength lexeme ≤ byteLength before := by
        dsimp only at hfirst
        omega
      have hbefore : ∃ between, before = lexeme ++ between ∧ rest = between ++ c :: after := by
        rcases List.append_eq_append_iff.mp hcs with
          ⟨between, hbefore, hrest⟩ | ⟨cover, hlexeme, hrest⟩
        · exact ⟨between, hbefore, hrest⟩
        · rw [hlexeme, byteLength_append] at hreached
          have hcover : cover = [] := by
            apply Classical.byContradiction
            intro hcover
            have hpos := byteLength_pos hcover
            omega
          rw [hcover, List.append_nil] at hlexeme
          exact ⟨[], by rw [hlexeme, List.append_nil], by simpa [hcover] using hrest.symm⟩
      obtain ⟨between, rfl, hrest⟩ := hbefore
      apply ih hrest
      intro t ht
      have hlater := hlater t ht
      rwa [byteLength_append, ← Nat.add_assoc] at hlater

end Cut

/-- No quote among the characters closes a quotation: all of them are escaped. -/
def Unclosed (cs : List Char) : Prop :=
  ∀ inner text after, Unescapes inner text → cs ≠ inner ++ '"' :: after

theorem quotation?_eq_none_iff : quotation? cs = none ↔ Unclosed cs := by
  constructor
  · rintro hnone inner text after hinner rfl
    rw [hinner.quotation?] at hnone
    cases hnone
  · intro hunclosed
    cases hq : quotation? cs with
    | none => rfl
    | some q =>
        obtain ⟨inner, hinner, hcs, -⟩ := exists_unescapes hq
        exact absurd hcs (hunclosed inner _ _ hinner)

/-- Only an unclosed quotation is no token. -/
theorem unclosed_of_scan? (h : scan? (c :: cs) = none) : c = '"' ∧ Unclosed cs := by
  unfold scan? at h
  split at h
  case h_8 rest heq =>
      obtain ⟨rfl, rfl⟩ := List.cons.inj heq
      exact ⟨rfl, quotation?_eq_none_iff.mp (Option.map_eq_none_iff.mp h)⟩
  all_goals cases h

theorem Cut.tokensFrom_unclosed {before : List Char} (h : Cut position before ts)
    (hrest : Unclosed rest) :
    tokensFrom position (before ++ '"' :: rest) =
      .error (.unclosedQuote (position + byteLength before)) := by
  induction h with
  | nothing position =>
      have hscan : scan? ('"' :: rest) = none := by
        rw [scan?, quotation?_eq_none_iff.mpr hrest]
        rfl
      exact tokensFrom_none rfl hscan position
  | blank hc _ ih => rw [List.cons_append, tokensFrom_blank hc, ih, byteLength, Nat.add_assoc]
  | token hlexeme _ ih =>
      have hquote : wordPart ('"' :: rest) = [] := rfl
      rw [List.append_assoc, tokensFrom_lexeme (hlexeme.before (wordPart_append hquote).trans), ih,
        byteLength_append, Nat.add_assoc]
      rfl

theorem exists_unclosed {fault : Fault} (h : tokensFrom position cs = .error fault) :
    ∃ before rest ts, cs = before ++ '"' :: rest ∧ Cut position before ts ∧ Unclosed rest ∧
      fault = .unclosedQuote (position + byteLength before) := by
  fun_induction tokensFrom position cs with
  | case1 => cases h
  | case2 position c cs hc ih =>
      obtain ⟨before, rest, ts, rfl, hcut, hrest, rfl⟩ := ih h
      refine ⟨c :: before, rest, ts, rfl, .blank hc hcut, hrest, ?_⟩
      rw [byteLength, Nat.add_assoc]
  | case3 position c cs hc hs =>
      obtain ⟨rfl, hrest⟩ := unclosed_of_scan? hs
      exact ⟨[], cs, [], rfl, .nothing position, hrest, (Except.error.inj h).symm⟩
  | case4 position c cs hc s hs _ stop later hlater ih =>
      obtain rfl := Except.error.inj h
      obtain ⟨before, rest, ts, hbefore, hcut, hrest, rfl⟩ := ih hlater
      obtain ⟨hlexeme, hcs⟩ := lexeme_of_scan? (by simpa using hc) hs
      have hquote : wordPart ('"' :: rest) = [] := rfl
      have hcutoff : wordPart s.rest = [] → wordPart before = [] := by
        rw [hbefore, wordPart_append hquote]
        exact id
      refine ⟨s.lexeme ++ before, rest, _, ?_, .token (hlexeme.before hcutoff) hcut, hrest, ?_⟩
      · rw [hcs, hbefore, List.append_assoc]
      · rw [byteLength_append, ← Nat.add_assoc]
  | case5 => cases h

/-- The characters of a token are that token also when they stand alone. -/
theorem Lexeme.cut_alone (h : Lexeme kind lexeme rest) :
    Cut 0 lexeme [⟨kind, 0, byteLength lexeme⟩] := by
  have halone : Lexeme kind lexeme [] := h.before fun _ => rfl
  have hcut := Cut.token halone (.nothing (0 + byteLength lexeme))
  rwa [List.append_nil, Nat.zero_add] at hcut

theorem tokens_eq_ok_iff {text : String} : tokens text = .ok ts ↔ Cut 0 text.toList ts :=
  tokensFrom_eq_ok_iff

theorem tokens_eq_error_iff {text : String} {fault : Fault} :
    tokens text = .error fault ↔
      ∃ before rest, text = before ++ "\"" ++ rest ∧ (∃ ts, tokens before = .ok ts) ∧
        Unclosed rest.toList ∧ fault = .unclosedQuote before.utf8ByteSize := by
  constructor
  · intro hfault
    obtain ⟨before, rest, ts, htext, hcut, hrest, rfl⟩ := exists_unclosed hfault
    refine ⟨String.ofList before, String.ofList rest, ?_, ⟨ts, ?_⟩, ?_, ?_⟩
    · rw [← String.toList_inj, htext]
      simp
    · rw [tokens_eq_ok_iff, String.toList_ofList]
      exact hcut
    · rwa [String.toList_ofList]
    · rw [Nat.zero_add, byteLength_eq]
  · rintro ⟨before, rest, rfl, ⟨ts, hts⟩, hrest, rfl⟩
    have hunclosed := (tokens_eq_ok_iff.mp hts).tokensFrom_unclosed hrest
    rw [Nat.zero_add, byteLength_toList] at hunclosed
    rw [tokens, ← hunclosed]
    simp

/-- The piece of a text that a token covers. -/
theorem exists_piece {text : String} (h : tokens text = .ok ts) :
    ∀ t ∈ ts, ∃ before span after, text = before ++ span ++ after ∧
      t.start = before.utf8ByteSize ∧ t.stop = (before ++ span).utf8ByteSize ∧
      Lexeme t.kind span.toList after.toList := by
  intro t ht
  obtain ⟨before, span, after, htext, hstart, hstop, hspan⟩ :=
    (tokens_eq_ok_iff.mp h).exists_span t ht
  rw [Nat.zero_add] at hstart hstop
  refine ⟨String.ofList before, String.ofList span, String.ofList after, ?_, ?_, ?_, ?_⟩
  · rw [← String.toList_inj, htext]
    simp
  · rw [hstart, byteLength_eq]
  · rw [hstop, byteLength_eq, String.ofList_append]
  · rwa [String.toList_ofList, String.toList_ofList]

/-- A text has no tokens exactly when some quote in it opens a quotation that is never closed, with
nothing but tokens and white space before the quote; the fault gives the place of that quote.
Otherwise each token covers a piece of the text of at least one character, which ends before the
pieces of later tokens start, and a character that no token covers is white space. The piece says by
itself what the token is: as a text of its own, it has that one token. -/
theorem tokens_account_for_text (text : String) :
    (∀ fault, tokens text = .error fault ↔
      ∃ before rest, text = before ++ "\"" ++ rest ∧ (∃ ts, tokens before = .ok ts) ∧
        Unclosed rest.toList ∧ fault = .unclosedQuote before.utf8ByteSize) ∧
    ∀ ts, tokens text = .ok ts →
      ts.Pairwise (fun a b => a.stop ≤ b.start) ∧
      (∀ t ∈ ts, ∃ before span after, text = before ++ span ++ after ∧
        t.start = before.utf8ByteSize ∧ t.stop = (before ++ span).utf8ByteSize ∧
        t.start < t.stop ∧ t.stop ≤ text.utf8ByteSize ∧
        t.kind.Reads span.toList ∧ tokens span = .ok [⟨t.kind, 0, span.utf8ByteSize⟩]) ∧
      ∀ before c after, text = before ++ String.singleton c ++ after →
        (∀ t ∈ ts, ¬(t.start ≤ before.utf8ByteSize ∧ before.utf8ByteSize < t.stop)) →
        Text.isBlank c = true := by
  refine ⟨fun _ => tokens_eq_error_iff, ?_⟩
  intro ts hts
  have hcut := tokens_eq_ok_iff.mp hts
  refine ⟨hcut.pairwise, ?_, ?_⟩
  · intro t ht
    obtain ⟨before, span, after, rfl, hstart, hstop, hspan⟩ := exists_piece hts t ht
    have hpos : 0 < span.utf8ByteSize := by
      obtain ⟨c, cs, hfirst, -⟩ := hspan.exists_cons
      rw [← byteLength_toList]
      exact byteLength_pos (hfirst ▸ List.cons_ne_nil c cs)
    refine ⟨before, span, after, rfl, hstart, hstop, ?_, ?_, hspan.reads, ?_⟩
    · rw [hstart, hstop, String.utf8ByteSize_append]
      omega
    · rw [hstop]
      simp only [String.utf8ByteSize_append]
      omega
    · rw [tokens_eq_ok_iff, ← byteLength_toList]
      exact hspan.cut_alone
  · rintro before c after rfl huncovered
    have hchars : (before ++ String.singleton c ++ after).toList =
        before.toList ++ c :: after.toList := by simp
    apply hcut.isBlank_of_uncovered hchars
    rwa [Nat.zero_add, byteLength_toList]

/-- A character of two bytes, an escaped quote, a suffix and a boost on its own; and a quotation
whose only other quote is escaped. -/
theorem tokens_account_for_text_with_quotes :
    let text := "é \"a\\\"b\"~2 ^3&&"
    let ts : List Token := [⟨.word "é", 0, 2⟩, ⟨.phrase "a\"b" "~2", 3, 11⟩, ⟨.boost "3&&", 12, 16⟩]
    (tokens text = .ok ts ∧ ts.Pairwise fun a b => a.stop ≤ b.start) ∧
      tokens ("é " ++ "\"" ++ "b\\\"") = .error (.unclosedQuote 3) := by
  intro text ts
  have htokens : tokens text = .ok ts := toOption_eq_some_iff.mp (by decide +kernel)
  have hbefore : tokens "é " = .ok [⟨.word "é", 0, 2⟩] :=
    toOption_eq_some_iff.mp (by decide +kernel)
  have hunclosed : Unclosed "b\\\"".toList := quotation?_eq_none_iff.mp rfl
  refine ⟨⟨htokens, ((tokens_account_for_text text).2 ts htokens).1⟩, ?_⟩
  exact ((tokens_account_for_text _).1 _).mpr ⟨"é ", "b\\\"", rfl, ⟨_, hbefore⟩, hunclosed, rfl⟩

end FilterCompiler.FreeText
