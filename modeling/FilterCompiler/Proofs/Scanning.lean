import FilterCompiler.Proofs.Grammar

/-!
How a text is cut into tokens, apart from where they stand. Every token is taken from the front of
what is left, and only words, boosts and what follows a quotation reach as far as they can; `Lexeme`
says which characters make which token, without reference to how they are found. So the tokens of
two texts one after the other are those of each, as long as the second one does not go on with a
word at the end of the first.
-/

namespace FilterCompiler.FreeText

variable {position : Nat} {c : Char} {cs ds rest word : List Char} {s : Scan} {kind : Kind}
  {ks ls : List Kind}

theorem wordPart_append_afterWord (cs : List Char) : wordPart cs ++ afterWord cs = cs :=
  List.takeWhile_append_dropWhile

theorem wordPart_append (hds : wordPart ds = []) : wordPart (cs ++ ds) = wordPart cs := by
  induction cs with
  | nil => exact hds
  | cons c cs ih =>
      simp only [wordPart, List.cons_append, List.takeWhile_cons] at ih ⊢
      rw [ih]

theorem endsWord_of_mem_wordPart (hmember : c ∈ wordPart cs) : endsWord c = false := by
  have hall := List.all_eq_true.mp (List.all_takeWhile (p := (!endsWord ·)) (l := cs)) c hmember
  simpa using hall

/-- Where a word has ended, none goes on. -/
theorem wordPart_afterWord (cs : List Char) : wordPart (afterWord cs) = [] := by
  induction cs with
  | nil => rfl
  | cons c cs ih =>
      rw [afterWord, List.dropWhile_cons]
      split
      · exact ih
      · rename_i hc
        rw [wordPart, List.takeWhile_cons, if_neg hc]

/-- Where no word can go on, a word is all that is taken. -/
theorem wordPart_of_word (hword : ∀ x ∈ word, endsWord x = false) (hrest : wordPart rest = []) :
    wordPart (word ++ rest) = word ∧ afterWord (word ++ rest) = rest := by
  have hpart : wordPart (word ++ rest) = word := by
    rw [wordPart, List.takeWhile_append_of_pos (fun x hx => by simp [hword x hx])]
    exact (congrArg (word ++ ·) hrest).trans (List.append_nil word)
  have hboth := wordPart_append_afterWord (word ++ rest)
  rw [hpart] at hboth
  exact ⟨hpart, List.append_cancel_left hboth⟩

/-- Characters that can stand between quotes, and the text that they stand for. None of them is a
quote, except after a backslash. -/
inductive Unescapes : List Char → List Char → Prop where
  | nothing : Unescapes [] []
  | plain {c : Char} {inner text : List Char} (hquote : c ≠ '"') (hescape : c ≠ '\\')
      (hinner : Unescapes inner text) : Unescapes (c :: inner) (c :: text)
  | escape (c : Char) {inner text : List Char} (hinner : Unescapes inner text) :
      Unescapes ('\\' :: c :: inner) (c :: text)

/-- A quotation ends at the first quote that is not escaped, whatever comes after it. -/
theorem Unescapes.quotation? {inner text : List Char} (h : Unescapes inner text)
    (rest : List Char) :
    quotation? (inner ++ '"' :: rest) = some ⟨text, inner ++ ['"'], rest⟩ := by
  induction h with
  | nothing => rfl
  | plain hquote hescape _ ih =>
      rw [List.cons_append, FreeText.quotation?, ih]
      · rfl
      · exact hquote
      · intro _ _ hc _
        exact hescape hc
  | escape c _ ih =>
      rw [List.cons_append, List.cons_append, FreeText.quotation?, ih]
      rfl

theorem exists_unescapes {q : Quotation} (h : quotation? cs = some q) :
    ∃ inner, Unescapes inner q.text ∧ cs = inner ++ '"' :: q.rest ∧ q.lexeme = inner ++ ['"'] := by
  fun_induction quotation? cs generalizing q with
  | case1 => cases h
  | case2 cs =>
      obtain rfl := Option.some.inj h
      exact ⟨[], .nothing, rfl, rfl⟩
  | case3 c cs ih =>
      obtain ⟨r, hr, rfl⟩ := Option.map_eq_some_iff.mp h
      obtain ⟨inner, hinner, hcs, hlexeme⟩ := ih hr
      refine ⟨'\\' :: c :: inner, .escape c hinner, ?_, ?_⟩
      · rw [hcs]
        rfl
      · dsimp only
        rw [hlexeme]
        rfl
  | case4 c cs hquote hescape ih =>
      obtain ⟨r, hr, rfl⟩ := Option.map_eq_some_iff.mp h
      obtain ⟨inner, hinner, hcs, hlexeme⟩ := ih hr
      have hplain : c ≠ '\\' := by
        rintro rfl
        cases cs with
        | nil => cases hr
        | cons d cs => exact hescape d cs rfl rfl
      refine ⟨c :: inner, .plain hquote hplain hinner, ?_, ?_⟩
      · rw [hcs]
        rfl
      · dsimp only
        rw [hlexeme]
        rfl

/-- The characters of a token, as long as `rest` follows them: words, boosts and what comes directly
after a quotation go on for as long as they can. -/
inductive Lexeme : Kind → List Char → List Char → Prop where
  | opening (rest : List Char) : Lexeme .opening ['('] rest
  | closing (rest : List Char) : Lexeme .closing [')'] rest
  | plus (rest : List Char) : Lexeme .plus ['+'] rest
  | minus (rest : List Char) : Lexeme .minus ['-'] rest
  | bang (rest : List Char) : Lexeme .bang ['!'] rest
  | and (rest : List Char) : Lexeme .and ['&', '&'] rest
  | or (rest : List Char) : Lexeme .or ['|', '|'] rest
  | phrase {inner text suffix rest : List Char} (hinner : Unescapes inner text)
      (hsuffix : ∀ x ∈ suffix, endsWord x = false) (hrest : wordPart rest = []) :
      Lexeme (.phrase (String.ofList text) (String.ofList suffix))
        ('"' :: inner ++ '"' :: suffix) rest
  | boost {raw rest : List Char} (hraw : ∀ x ∈ raw, endsWord x = false)
      (hrest : wordPart rest = []) : Lexeme (.boost (String.ofList raw)) ('^' :: raw) rest
  | word {c : Char} {cs rest : List Char} (hword : ∀ x ∈ c :: cs, endsWord x = false)
      (hfirst : c ≠ '+' ∧ c ≠ '-' ∧ c ≠ '!' ∧ c ≠ '^')
      (hpair : ∀ x ∈ ['&', '|'], ¬[x, x] <+: c :: cs) (hrest : wordPart rest = []) :
      Lexeme (.ofWord (String.ofList (c :: cs))) (c :: cs) rest

theorem Lexeme.scan? {lexeme : List Char} (h : Lexeme kind lexeme rest) :
    scan? (lexeme ++ rest) = some ⟨kind, lexeme, rest⟩ := by
  cases h with
  | opening | closing | plus | minus | bang | and | or => rfl
  | phrase hinner hsuffix hrest =>
      obtain ⟨hpart, hafter⟩ := wordPart_of_word hsuffix hrest
      rw [List.cons_append, List.cons_append, List.append_assoc, List.cons_append, FreeText.scan?,
        hinner.quotation?, Option.map_some, hpart, hafter]
      simp
  | boost hraw hrest =>
      obtain ⟨hpart, hafter⟩ := wordPart_of_word hraw hrest
      rw [List.cons_append, FreeText.scan?, hpart, hafter]
  | @word c cs _ hword hfirst hpair hrest =>
      obtain ⟨hpart, hafter⟩ := wordPart_of_word hword hrest
      obtain ⟨hplus, hminus, hbang, hcaret⟩ := hfirst
      have hends : endsWord c = false := hword c List.mem_cons_self
      have hinside {x : Char} (hx : endsWord x = true) : c ≠ x := by
        rintro rfl
        exact Bool.false_ne_true (hends.symm.trans hx)
      have hone {x : Char} (hx : c ≠ x) (ds : List Char) : c :: cs ++ rest = x :: ds → False := by
        rintro ⟨⟩
        exact hx rfl
      -- A word of one character is not made a connective by what follows, which would belong to it.
      have htwo {x : Char} (hx : x ∈ ['&', '|']) (ds : List Char) :
          c :: cs ++ rest = x :: x :: ds → False := by
        intro heq
        cases cs with
        | nil =>
            obtain ⟨rfl, rfl⟩ := List.cons.inj heq
            simp [wordPart, hends] at hrest
        | cons d cs =>
            cases heq
            exact hpair c hx ⟨cs, rfl⟩
      rw [FreeText.scan?, hpart, hafter]
      · exact hone (hinside (by decide))
      · exact hone (hinside (by decide))
      · exact hone hplus
      · exact hone hminus
      · exact hone hbang
      · exact htwo (by decide)
      · exact htwo (by decide)
      · exact hone (hinside (by decide))
      · exact hone hcaret

/-- The token at the front of a text, with all that it can be. -/
theorem lexeme_of_scan? (hc : Text.isBlank c = false) (h : scan? (c :: cs) = some s) :
    Lexeme s.kind s.lexeme s.rest ∧ c :: cs = s.lexeme ++ s.rest := by
  unfold scan? at h
  split at h
  case h_8 rest heq =>
      obtain ⟨q, hq, rfl⟩ := Option.map_eq_some_iff.mp h
      obtain ⟨inner, hinner, hrest, hlexeme⟩ := exists_unescapes hq
      have hspan : '"' :: q.lexeme ++ wordPart q.rest = '"' :: inner ++ '"' :: wordPart q.rest := by
        rw [hlexeme, List.cons_append, List.append_assoc]
        rfl
      dsimp only
      rw [hspan]
      refine ⟨.phrase hinner (fun _ => endsWord_of_mem_wordPart) (wordPart_afterWord _), ?_⟩
      rw [heq, List.cons_append, List.cons_append, List.append_assoc, List.cons_append,
        wordPart_append_afterWord, hrest]
  case h_9 rest heq =>
      obtain rfl := Option.some.inj h
      refine ⟨.boost (fun _ => endsWord_of_mem_wordPart) (wordPart_afterWord rest), ?_⟩
      rw [heq, List.cons_append, wordPart_append_afterWord]
  case h_10 hopen hclose hplus hminus hbang hand hor hquote hcaret =>
      obtain rfl := Option.some.inj h
      have hne {x : Char} (hx : ∀ ds, c :: cs = x :: ds → False) : c ≠ x := by
        rintro rfl
        exact hx cs rfl
      have hends : endsWord c = false := by
        simp only [endsWord, hc, Bool.false_or, Bool.or_eq_false_iff, beq_eq_false_iff_ne]
        exact ⟨⟨hne hopen, hne hclose⟩, hne hquote⟩
      have hpart : wordPart (c :: cs) = c :: wordPart cs := by
        rw [wordPart, List.takeWhile_cons, if_pos (by simp [hends]), wordPart]
      have hpair : ∀ x ∈ ['&', '|'], ¬[x, x] <+: c :: wordPart cs := by
        intro x hx hpair
        rw [← hpart] at hpair
        obtain ⟨ds, hds⟩ := hpair.trans (List.takeWhile_prefix _)
        simp only [List.mem_cons, List.not_mem_nil, or_false] at hx
        rcases hx with rfl | rfl
        · exact hand ds hds.symm
        · exact hor ds hds.symm
      refine ⟨?_, (wordPart_append_afterWord _).symm⟩
      have hrest := wordPart_afterWord (c :: cs)
      have hword : ∀ x ∈ wordPart (c :: cs), endsWord x = false := fun _ => endsWord_of_mem_wordPart
      rw [hpart] at hword ⊢
      exact .word hword ⟨hne hplus, hne hminus, hne hbang, hne hcaret⟩ hpair hrest
  all_goals
    rename_i heq
    obtain rfl := Option.some.inj h
    refine ⟨?_, heq⟩
    constructor

/-- A token keeps its characters before any other rest that no word reaches into,
if none reaches into this one. -/
theorem Lexeme.before {lexeme : List Char} (h : Lexeme kind lexeme rest)
    (hds : wordPart rest = [] → wordPart ds = []) : Lexeme kind lexeme ds := by
  cases h with
  | phrase hinner hsuffix hrest => exact .phrase hinner hsuffix (hds hrest)
  | boost hraw hrest => exact .boost hraw (hds hrest)
  | word hword hfirst hpair hrest => exact .word hword hfirst hpair (hds hrest)
  | _ => constructor

/-- The token at the front of a text stays the same when the text goes on with
something that no word reaches into. -/
theorem scan?_append (hc : Text.isBlank c = false) (hds : wordPart ds = [])
    (h : scan? (c :: cs) = some s) :
    scan? (c :: cs ++ ds) = some { s with rest := s.rest ++ ds } := by
  obtain ⟨hlexeme, hcs⟩ := lexeme_of_scan? hc h
  rw [hcs, List.append_assoc]
  exact (hlexeme.before (wordPart_append hds).trans).scan?

theorem tokensFrom_blank (hc : Text.isBlank c = true) (position : Nat) (cs : List Char) :
    tokensFrom position (c :: cs) = tokensFrom (position + c.utf8Size) cs := by
  rw [tokensFrom, dif_pos hc]

theorem tokensFrom_scan (hc : Text.isBlank c = false) (hs : scan? (c :: cs) = some s)
    (position : Nat) :
    tokensFrom position (c :: cs) =
      (tokensFrom (position + byteLength s.lexeme) s.rest).map
        (⟨s.kind, position, position + byteLength s.lexeme⟩ :: ·) := by
  rw [tokensFrom, dif_neg (by simp [hc])]
  split
  · rename_i hnone
    rw [hs] at hnone
    cases hnone
  · rename_i r hr
    obtain rfl := Option.some.inj (hs.symm.trans hr)
    dsimp only
    cases tokensFrom (position + byteLength s.lexeme) s.rest <;> rfl

theorem tokensFrom_none (hc : Text.isBlank c = false) (hs : scan? (c :: cs) = none)
    (position : Nat) : tokensFrom position (c :: cs) = .error (.unclosedQuote position) := by
  rw [tokensFrom, dif_neg (by simp [hc])]
  split
  · rfl
  · rename_i r hr
    rw [hs] at hr
    cases hr

/-- The kinds of the tokens that a text is cut into. -/
inductive Tokenized : List Char → List Kind → Prop where
  | nothing : Tokenized [] []
  | blank {c : Char} {cs : List Char} {ks : List Kind} (hc : Text.isBlank c = true)
      (hcs : Tokenized cs ks) : Tokenized (c :: cs) ks
  | token {c : Char} {cs : List Char} {s : Scan} {ks : List Kind} (hc : Text.isBlank c = false)
      (hs : scan? (c :: cs) = some s) (hrest : Tokenized s.rest ks) :
      Tokenized (c :: cs) (s.kind :: ks)

/-- Wherever a text stands, it is cut into tokens of the same kinds. -/
theorem tokenized_iff (position : Nat) :
    Tokenized cs ks ↔ ∃ ts, tokensFrom position cs = .ok ts ∧ ts.map Token.kind = ks := by
  constructor
  · intro h
    induction h generalizing position with
    | nothing => exact ⟨[], by rw [tokensFrom], rfl⟩
    | blank hc _ ih =>
        rw [tokensFrom_blank hc]
        exact ih _
    | token hc hs _ ih =>
        obtain ⟨ts, hts, rfl⟩ := ih _
        rw [tokensFrom_scan hc hs, hts]
        exact ⟨_, rfl, rfl⟩
  · rintro ⟨ts, hts, rfl⟩
    fun_induction tokensFrom position cs generalizing ts with
    | case1 =>
        obtain rfl := Except.ok.inj hts
        exact .nothing
    | case2 position c cs hc ih => exact .blank hc (ih ts hts)
    | case3 => cases hts
    | case4 => cases hts
    | case5 position c cs hc s hs _ _ rest hrest ih =>
        obtain rfl := Except.ok.inj hts
        exact .token (by simpa using hc) hs (ih rest hrest)

/-- Two texts one after the other have the tokens of both, if the second one does not
go on with a word of the first. -/
theorem Tokenized.append (h : Tokenized cs ks) (hds : wordPart ds = []) (hls : Tokenized ds ls) :
    Tokenized (cs ++ ds) (ks ++ ls) := by
  induction h with
  | nothing => exact hls
  | blank hc _ ih => exact .blank hc ih
  | token hc hs _ ih => simpa using Tokenized.token hc (scan?_append hc hds hs) ih

end FilterCompiler.FreeText
