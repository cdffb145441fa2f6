import FilterCompiler.Json.Basic
import FilterCompiler.Text.Basic

/-!
The strict reader of JSON documents. Each function takes the characters still to be read and returns
what it read with the characters after it, which are fewer; that is why reading ends.
-/

namespace FilterCompiler.Json

open Text

def isSpace (c : Char) : Bool := c == ' ' || c == '\t' || c == '\n' || c == '\r'

def skipSpace (cs : List Char) : List Char := cs.dropWhile isSpace

theorem skipSpace_length_le (cs : List Char) : (skipSpace cs).length ≤ cs.length :=
  (List.dropWhile_sublist _).length_le

/-- A piece of a string as written: a character, or a 16-bit unit given by its number. -/
inductive Piece where
  | char (c : Char)
  | unit (n : Nat)

def hexValue? (c : Char) : Option Nat :=
  if c.isDigit then some (c.toNat - '0'.toNat)
  else if 'a' ≤ c ∧ c ≤ 'f' then some (c.toNat - 'a'.toNat + 10)
  else if 'A' ≤ c ∧ c ≤ 'F' then some (c.toNat - 'A'.toNat + 10)
  else none

def escaped? : Char → Option Char
  | '"' => some '"'
  | '\\' => some '\\'
  | '/' => some '/'
  | 'b' => some '\x08'
  | 'f' => some '\x0c'
  | 'n' => some '\n'
  | 'r' => some '\r'
  | 't' => some '\t'
  | _ => none

/-- The pieces up to the closing quote, and the characters after it. -/
def pieces? : List Char → Option (List Piece × List Char)
  | [] => none
  | '"' :: rest => some ([], rest)
  | '\\' :: 'u' :: a :: b :: c :: d :: rest => do
      let a ← hexValue? a
      let b ← hexValue? b
      let c ← hexValue? c
      let d ← hexValue? d
      let (ps, after) ← pieces? rest
      some (.unit (((a * 16 + b) * 16 + c) * 16 + d) :: ps, after)
  | '\\' :: e :: rest => do
      let c ← escaped? e
      let (ps, after) ← pieces? rest
      some (.char c :: ps, after)
  | c :: rest =>
    if c.toNat < 0x20 || c == '\\' then none
    else do
      let (ps, after) ← pieces? rest
      some (.char c :: ps, after)

theorem pieces?_length_lt {cs : List Char} {ps : List Piece} {after : List Char}
    (h : pieces? cs = some (ps, after)) : after.length < cs.length := by
  fun_induction pieces? cs generalizing ps with
  | case1 => simp at h
  | case2 rest => simp_all
  | case3 a b c d rest ih =>
      simp only [Option.bind_eq_bind, Option.bind_eq_some_iff] at h
      obtain ⟨_, _, _, _, _, _, _, _, ⟨qs, r⟩, hr, h⟩ := h
      simp only [Option.some.injEq, Prod.mk.injEq] at h
      have := ih (hr.trans (by rw [h.2]))
      simp only [List.length_cons]
      omega
  | case4 e rest _ ih =>
      simp only [Option.bind_eq_bind, Option.bind_eq_some_iff] at h
      obtain ⟨_, _, ⟨qs, r⟩, hr, h⟩ := h
      simp only [Option.some.injEq, Prod.mk.injEq] at h
      have := ih (hr.trans (by rw [h.2]))
      simp only [List.length_cons]
      omega
  | case5 => simp at h
  | case6 c rest _ _ _ _ ih =>
      simp only [Option.bind_eq_bind, Option.bind_eq_some_iff] at h
      obtain ⟨⟨qs, r⟩, hr, h⟩ := h
      simp only [Option.some.injEq, Prod.mk.injEq] at h
      have := ih (hr.trans (by rw [h.2]))
      simp only [List.length_cons]
      omega

def isHighSurrogate (n : Nat) : Bool := 0xd800 ≤ n && n < 0xdc00

def isLowSurrogate (n : Nat) : Bool := 0xdc00 ≤ n && n < 0xe000

/-- The text that pieces denote; surrogates count only in pairs. -/
def join? : List Piece → Option (List Char)
  | [] => some []
  | .char c :: ps => (join? ps).map (c :: ·)
  | .unit high :: .unit low :: ps =>
    if isHighSurrogate high then
      if isLowSurrogate low then
        (join? ps).map (Char.ofNat (0x10000 + (high - 0xd800) * 0x400 + (low - 0xdc00)) :: ·)
      else none
    else if isLowSurrogate high then none
    else (join? (.unit low :: ps)).map (Char.ofNat high :: ·)
  | .unit n :: ps =>
    if isHighSurrogate n || isLowSurrogate n then none
    else (join? ps).map (Char.ofNat n :: ·)

def pieceText? (ps : List Piece) : Option String := (join? ps).map String.ofList

/-- The rest of a text after something was read from it. -/
abbrev Shorter (cs : List Char) := { rest : List Char // rest.length < cs.length }

def word? (word : List Char) (value : Json) (cs : List Char) (h : 0 < word.length) :
    Option (Json × Shorter cs) :=
  if hw : cs.take word.length = word then
    some (value, ⟨cs.drop word.length, by
      have := congrArg List.length hw
      simp only [List.length_take, List.length_drop] at this ⊢
      omega⟩)
  else none

/-- The characters of a number: those that can stand in one, as many as there are. -/
def isNumberChar (c : Char) : Bool :=
  c.isDigit || c == '-' || c == '+' || c == '.' || c == 'e' || c == 'E'

/-- A fraction and an exponent, both optional, and nothing after them. -/
def isNumberTail (cs : List Char) : Bool :=
  let afterFraction :=
    match cs with
    | '.' :: rest => if (rest.takeWhile Char.isDigit).isEmpty then none
      else some (rest.dropWhile Char.isDigit)
    | _ => some cs
  match afterFraction with
  | none => false
  | some [] => true
  | some (mark :: rest) =>
    let digits := match rest with
      | '+' :: ds => ds
      | '-' :: ds => ds
      | ds => ds
    (mark == 'e' || mark == 'E') && !digits.isEmpty && digits.all Char.isDigit

/-- A number without its sign: no zero stands before another digit. -/
def unsigned? (negative : Bool) (cs : List Char) : Option Json :=
  let digits := cs.takeWhile Char.isDigit
  let tail := cs.dropWhile Char.isDigit
  if digits.isEmpty || (digits.head? == some '0' && digits.length != 1) || !isNumberTail tail then
    none
  else if !tail.isEmpty then some .decimal
  else
    let n := digitsValue digits
    if negative then some (if n == 0 then .decimal else .integer (-n)) else some (.integer n)

def number? : List Char → Option Json
  | '-' :: cs => unsigned? true cs
  | cs => unsigned? false cs

theorem dropWhile_length_lt {p : Char → Bool} {c : Char} {cs : List Char} (h : p c = true) :
    ((c :: cs).dropWhile p).length < (c :: cs).length := by
  rw [List.dropWhile_cons_of_pos h]
  exact Nat.lt_succ_of_le (List.dropWhile_sublist _).length_le

mutual

/-- A value, with no space before it. -/
def value? (cs : List Char) : Option (Json × Shorter cs) :=
  match cs with
  | [] => none
  | '"' :: rest =>
    match h : pieces? rest with
    | none => none
    | some (ps, after) => some (.string (pieceText? ps), ⟨after, by
        have := pieces?_length_lt h
        simp only [List.length_cons]
        omega⟩)
  | '[' :: rest =>
    match h : skipSpace rest with
    | ']' :: after => some (.array [], ⟨after, by
        have := skipSpace_length_le rest
        simp only [h, List.length_cons] at this
        simp only [List.length_cons]
        omega⟩)
    | _ =>
      match elements? rest with
      | none => none
      | some (js, after) => some (.array js, ⟨after.1, by
          have := after.2
          simp only [List.length_cons]
          omega⟩)
  | '\x7b' :: rest =>
    match h : skipSpace rest with
    | '\x7d' :: after => some (.object [], ⟨after, by
        have := skipSpace_length_le rest
        simp only [h, List.length_cons] at this
        simp only [List.length_cons]
        omega⟩)
    | _ =>
      match entries? rest with
      | none => none
      | some (es, after) => some (.object es, ⟨after.1, by
          have := after.2
          simp only [List.length_cons]
          omega⟩)
  | c :: rest =>
    if h : isNumberChar c = true then
      (number? ((c :: rest).takeWhile isNumberChar)).map fun j =>
        (j, ⟨(c :: rest).dropWhile isNumberChar, dropWhile_length_lt h⟩)
    else
      (word? "null".toList .null (c :: rest) (by decide)).or
        ((word? "true".toList (.bool true) (c :: rest) (by decide)).or
          (word? "false".toList (.bool false) (c :: rest) (by decide)))
termination_by (cs.length, 0)

/-- The elements of an array up to its closing bracket; there is at least one. -/
def elements? (cs : List Char) : Option (List Json × Shorter cs) :=
  match value? (skipSpace cs) with
  | none => none
  | some (j, ⟨rest, hr⟩) =>
    have hle := skipSpace_length_le cs
    match h : skipSpace rest with
    | ']' :: after => some ([j], ⟨after, by
        have := skipSpace_length_le rest
        simp only [h, List.length_cons] at this
        omega⟩)
    | ',' :: more =>
      have hm : more.length < cs.length := by
        have := skipSpace_length_le rest
        simp only [h, List.length_cons] at this
        omega
      match elements? more with
      | none => none
      | some (js, ⟨after, ha⟩) => some (j :: js, ⟨after, by omega⟩)
    | _ => none
termination_by (cs.length, 1)
decreasing_by
  · have := skipSpace_length_le cs
    omega
  · omega

/-- The entries of an object up to its closing brace; there is at least one. -/
def entries? (cs : List Char) : Option (List (Option String × Json) × Shorter cs) :=
  have hle := skipSpace_length_le cs
  match hk : skipSpace cs with
  | '"' :: key =>
    match hp : pieces? key with
    | none => none
    | some (ps, afterKey) =>
      match hc : skipSpace afterKey with
      | ':' :: beforeValue =>
        have hv : (skipSpace beforeValue).length < cs.length := by
          have h1 := pieces?_length_lt hp
          have h2 := skipSpace_length_le afterKey
          have h3 := skipSpace_length_le beforeValue
          simp only [hk, List.length_cons] at hle
          simp only [hc, List.length_cons] at h2
          omega
        match value? (skipSpace beforeValue) with
        | none => none
        | some (j, ⟨rest, hr⟩) =>
          match h : skipSpace rest with
          | '\x7d' :: after => some ([(pieceText? ps, j)], ⟨after, by
              have := skipSpace_length_le rest
              simp only [h, List.length_cons] at this
              omega⟩)
          | ',' :: more =>
            have hm : more.length < cs.length := by
              have := skipSpace_length_le rest
              simp only [h, List.length_cons] at this
              omega
            match entries? more with
            | none => none
            | some (es, ⟨after, ha⟩) => some ((pieceText? ps, j) :: es, ⟨after, by omega⟩)
          | _ => none
      | _ => none
  | _ => none
termination_by (cs.length, 1)
decreasing_by
  · omega
  · omega

end

/-- A whole document: one value with nothing but space around it. -/
def parse? (s : String) : Option Json :=
  match value? (skipSpace s.toList) with
  | some (j, rest) => if (skipSpace rest.1).isEmpty then some j else none
  | none => none

end FilterCompiler.Json
