import FilterCompiler.FreeText.Expression
import FilterCompiler.FreeText.Token
import FilterCompiler.Text.Basic
import FilterCompiler.Weight.Reading

/-!
Reading expressions, token by token:

level = modifier? term (conjunction? modifier? term)* term  = word | phrase | '(' level ')' boost?

The state between two tokens is what has been read of each open level and what may come next.
-/

namespace FilterCompiler.FreeText

open Text (splitFirst)

/-- A boost is finite and not negative. -/
def readBoost (position : Nat) (raw : List Char) : Except Fault Weight :=
  match Weight.read? raw with
  | some w =>
    if w.isFinite && w.isNonnegative then .ok w
    else .error (.invalidBoost (String.ofList raw) position)
  | none => .error (.invalidBoost (String.ofList raw) position)

def readBoost? (position : Nat) : Option (List Char) → Except Fault (Option Weight)
  | none => .ok none
  | some raw => (readBoost position raw).map some

/-- A similarity is one half unless it is written out. -/
def readSimilarity (position : Nat) (raw : List Char) : Except Fault Weight :=
  if raw.isEmpty then .ok .half
  else match Weight.read? raw with
    | none => .error (.invalidSimilarity (String.ofList raw) position)
    | some w =>
      if w.isNonnegative && w.isBelowOne then .ok w else .error (.similarityOutOfRange position)

def readSimilarity? (position : Nat) : Option (List Char) → Except Fault (Option Weight)
  | none => .ok none
  | some raw => (readSimilarity position raw).map some

/-- A word is `body~similarity^boost`, the last two being optional. -/
def Word.read (position : Nat) (raw : List Char) : Except Fault Word := do
  let (term, rawBoost) := splitFirst '^' raw
  let boost ← readBoost? position rawBoost
  let (body, rawSimilarity) := splitFirst '~' term
  let similarity ← readSimilarity? position rawSimilarity
  if body.isEmpty then .error (.emptyTerm position)
  else if similarity.isNone && body.head?.any isWild then .error (.leadingWildcard position)
  else .ok ⟨String.ofList body, similarity, boost⟩

def readSlop (position : Nat) : List Char → Except Fault Nat
  | [] => .ok 0
  | '~' :: raw =>
    match Text.readNatBelow? (1 <<< 32) raw with
    | some slop => .ok slop
    | none => .error (.invalidSlop position)
  | _ => .error (.textAfterPhrase position)

/-- What follows a quoted text is `~slop^boost`, both being optional. -/
def Quote.read (position : Nat) (text : String) (suffix : List Char) : Except Fault Quote := do
  let (rawSlop, rawBoost) := splitFirst '^' suffix
  let boost ← readBoost? position rawBoost
  let slop ← readSlop position rawSlop
  .ok ⟨text, slop, boost⟩

/-- A group whose closing parenthesis is still to come: how it is linked to the level around it, and
what that level held before it, in reverse. -/
structure OpenGroup where
  position : Nat
  link : Link
  before : Level

inductive Expected where
  /-- A modifier may come, and then a term must. -/
  | modifier (conjunction : Option Conjunction)
  | term (link : Link)
  /-- After a term, the level may go on or end. -/
  | continuation
  /-- After a group, its boost may come. -/
  | boost (link : Link) (group : Level)

/-- What has been read: the open groups, innermost first, the innermost level in
reverse, and what is expected. -/
structure Reading where
  groups : List OpenGroup
  level : Level
  expected : Expected

def Kind.modifier? : Kind → Option Modifier
  | .plus => some .required
  | .minus | .bang | .not => some .prohibited
  | _ => none

def Kind.conjunction? : Kind → Option Conjunction
  | .and => some .and
  | .or => some .or
  | _ => none

namespace Reading

def start : Reading := ⟨[], [], .modifier none⟩

def add (r : Reading) (link : Link) (node : Node) : Reading :=
  { r with level := (link, node) :: r.level, expected := .continuation }

/-- A token where a term has to come. -/
def term (r : Reading) (link : Link) (t : Token) : Except Fault Reading :=
  match t.kind with
  | .opening =>
    if maxDepth ≤ r.groups.length then .error (.nestedTooDeep t.start)
    else .ok ⟨⟨t.start, link, r.level⟩ :: r.groups, [], .modifier none⟩
  | .word text => (Word.read t.start text.toList).map fun w => r.add link (.word w)
  | .phrase text suffix =>
    (Quote.read t.start text suffix.toList).map fun q => r.add link (.quote q)
  | .boost _ => .error (.looseBoost t.start)
  | _ => .error (.expectedTerm t.start)

/-- A token where a modifier or a term has to come. -/
def modifier (r : Reading) (conjunction : Option Conjunction) (t : Token) : Except Fault Reading :=
  match t.kind.modifier? with
  | some m => .ok { r with expected := .term ⟨conjunction, some m⟩ }
  | none => r.term ⟨conjunction, none⟩ t

/-- A token after a term. -/
def continuation (r : Reading) (t : Token) : Except Fault Reading :=
  match t.kind, r.groups with
  | .closing, [] => .error (.unexpectedToken t.start)
  | .closing, g :: groups => .ok ⟨groups, g.before, .boost g.link r.level.reverse⟩
  | kind, _ =>
    match kind.conjunction? with
    | some c => .ok { r with expected := .modifier (some c) }
    | none => r.modifier none t

def step (r : Reading) (t : Token) : Except Fault Reading :=
  match r.expected with
  | .modifier conjunction => r.modifier conjunction t
  | .term link => r.term link t
  | .continuation => r.continuation t
  | .boost link group =>
    match t.kind with
    | .boost raw => (readBoost t.start raw.toList).map fun b => r.add link (.group group (some b))
    | _ => (r.add link (.group group none)).continuation t

/-- The whole level, once the tokens have come to an end after a term. -/
def close (r : Reading) : Except Fault Level :=
  match r.groups with
  | [] => .ok r.level.reverse
  | g :: _ => .error (.unclosedGroup g.position)

def finish (r : Reading) : Except Fault Level :=
  match r.expected with
  | .modifier _ | .term _ => .error .missingTerm
  | .continuation => r.close
  | .boost link group => (r.add link (.group group none)).close

end Reading

/-- The level that tokens spell; no tokens spell a level without items. -/
def Level.read (ts : List Token) : Except Fault Level :=
  match ts with
  | [] => .ok []
  | ts => ts.foldlM Reading.step .start >>= Reading.finish

/-- The query of a text. A text without words asks for nothing. -/
def Target.parse (t : Target) (text : String) : Except Fault Query := do
  let ts ← tokens text
  let level ← Level.read ts
  .ok ((level.query? t).getD .nothing)

end FilterCompiler.FreeText
