import FilterCompiler.FreeText.Fault
import FilterCompiler.Text.Basic

/-!
The tokens of a free-text expression. A token is taken from the front of the text together with the
characters it stands for, so nothing but white space is lost between tokens.
-/

namespace FilterCompiler.FreeText

inductive Kind where
  | word (text : String)
  /-- A quoted text with its escapes resolved, and what follows the closing quote directly. -/
  | phrase (text suffix : String)
  | opening
  | closing
  | plus
  | minus
  | bang
  /-- A boost that is not attached to a term. -/
  | boost (raw : String)
  | and
  | or
  | not
deriving DecidableEq

/-- A token and the bytes it covers, from `start` up to `stop`. -/
structure Token where
  kind : Kind
  start : Nat
  stop : Nat
deriving DecidableEq

/-- Characters that end a word without belonging to it. -/
def endsWord (c : Char) : Bool :=
  Text.isBlank c || c == '(' || c == ')' || c == '"'

def wordPart (cs : List Char) : List Char := cs.takeWhile (!endsWord ·)

def afterWord (cs : List Char) : List Char := cs.dropWhile (!endsWord ·)

theorem afterWord_length_le (cs : List Char) : (afterWord cs).length ≤ cs.length :=
  (List.dropWhile_sublist _).length_le

/-- The text up to the closing quote, the characters that wrote it with that quote, and the rest. -/
structure Quotation where
  text : List Char
  lexeme : List Char
  rest : List Char

/-- A backslash takes the next character as it is. -/
def quotation? : List Char → Option Quotation
  | [] => none
  | '"' :: cs => some ⟨[], ['"'], cs⟩
  | '\\' :: c :: cs =>
    (quotation? cs).map fun q => ⟨c :: q.text, '\\' :: c :: q.lexeme, q.rest⟩
  | c :: cs =>
    (quotation? cs).map fun q => ⟨c :: q.text, c :: q.lexeme, q.rest⟩

theorem quotation?_length_lt {cs : List Char} {q : Quotation} (h : quotation? cs = some q) :
    q.rest.length < cs.length := by
  fun_induction quotation? cs generalizing q with
  | case1 => simp at h
  | case2 cs =>
      obtain rfl := Option.some.inj h
      simp
  | case3 c cs ih =>
      obtain ⟨r, hr, rfl⟩ := Option.map_eq_some_iff.mp h
      have := ih hr
      simp only [List.length_cons]
      omega
  | case4 c cs _ _ ih =>
      obtain ⟨r, hr, rfl⟩ := Option.map_eq_some_iff.mp h
      have := ih hr
      simp only [List.length_cons]
      omega

/-- Upper-case connectives are words of the notation, everything else is searched for. -/
def Kind.ofWord (text : String) : Kind :=
  match text with
  | "AND" => .and
  | "OR" => .or
  | "NOT" => .not
  | text => .word text

/-- A token at the front of a text, the characters it covers, and the rest. -/
structure Scan where
  kind : Kind
  lexeme : List Char
  rest : List Char

/-- Takes a token off a text that does not start with white space. Only
an unclosed quotation has none. -/
def scan? : List Char → Option Scan
  | '(' :: cs => some ⟨.opening, ['('], cs⟩
  | ')' :: cs => some ⟨.closing, [')'], cs⟩
  | '+' :: cs => some ⟨.plus, ['+'], cs⟩
  | '-' :: cs => some ⟨.minus, ['-'], cs⟩
  | '!' :: cs => some ⟨.bang, ['!'], cs⟩
  | '&' :: '&' :: cs => some ⟨.and, ['&', '&'], cs⟩
  | '|' :: '|' :: cs => some ⟨.or, ['|', '|'], cs⟩
  | '"' :: cs =>
    (quotation? cs).map fun q =>
      let suffix := wordPart q.rest
      ⟨.phrase (String.ofList q.text) (String.ofList suffix), '"' :: q.lexeme ++ suffix,
        afterWord q.rest⟩
  | '^' :: cs => some ⟨.boost (String.ofList (wordPart cs)), '^' :: wordPart cs, afterWord cs⟩
  | cs => some ⟨.ofWord (String.ofList (wordPart cs)), wordPart cs, afterWord cs⟩

theorem scan?_length_lt {c : Char} {cs : List Char} {s : Scan} (hc : Text.isBlank c = false)
    (h : scan? (c :: cs) = some s) : s.rest.length < (c :: cs).length := by
  unfold scan? at h
  split at h
  case h_8 rest heq =>
      obtain ⟨q, hq, rfl⟩ := Option.map_eq_some_iff.mp h
      have h1 := quotation?_length_lt hq
      have h2 := afterWord_length_le q.rest
      simp only [heq, List.length_cons]
      omega
  case h_9 rest heq =>
      obtain rfl := Option.some.inj h
      have := afterWord_length_le rest
      simp only [heq, List.length_cons]
      omega
  case h_10 hopen hclose _ _ _ _ _ hquote _ =>
      obtain rfl := Option.some.inj h
      have hends : endsWord c = false := by
        simp only [endsWord, hc, Bool.false_or, Bool.or_eq_false_iff, beq_eq_false_iff_ne]
        refine ⟨⟨?_, ?_⟩, ?_⟩
        · rintro rfl
          exact hopen cs rfl
        · rintro rfl
          exact hclose cs rfl
        · rintro rfl
          exact hquote cs rfl
      have := afterWord_length_le cs
      simp only [afterWord, List.dropWhile_cons, hends, Bool.not_false, if_true, List.length_cons]
      simp only [afterWord] at this
      omega
  all_goals
    rename_i heq
    obtain rfl := Option.some.inj h
    simp only [heq, List.length_cons]
    omega

def byteLength : List Char → Nat
  | [] => 0
  | c :: cs => c.utf8Size + byteLength cs

/-- The tokens of the characters from byte `position` on. -/
def tokensFrom (position : Nat) (cs : List Char) : Except Fault (List Token) :=
  match cs with
  | [] => .ok []
  | c :: rest =>
    if hc : Text.isBlank c then tokensFrom (position + c.utf8Size) rest
    else
      match hs : scan? (c :: rest) with
      | none => .error (.unclosedQuote position)
      | some s =>
        have shorter := scan?_length_lt (by simpa using hc) hs
        let stop := position + byteLength s.lexeme
        match tokensFrom stop s.rest with
        | .error fault => .error fault
        | .ok tokens => .ok (⟨s.kind, position, stop⟩ :: tokens)
termination_by cs.length
decreasing_by
  · simp
  · exact shorter

def tokens (text : String) : Except Fault (List Token) := tokensFrom 0 text.toList

end FilterCompiler.FreeText
