import FilterCompiler.Value.Moment
import FilterCompiler.Value.Vocabulary

/-!
Encodings: how the literals of a field are written in the index. Numbers, durations and dates are
measured: a literal is indexed as one word, and stands for all the words between two bounds. Only a
whole day is more than a single word.
-/

namespace FilterCompiler.Value

/-- The sortable form puts all 64-bit integers in the order of their values: it counts them from the
smallest one, in sixteen hexadecimal digits. -/
def sortable (n : Int64) : String :=
  String.ofList (Text.padded 16 16 (n.toInt + 0x8000000000000000).toNat)

def plain (n : Int64) : String := toString n.toInt

def encodeInt (isSortable : Bool) (n : Int64) : String :=
  if isSortable then sortable n else plain n

/-- The product, unless it leaves the 64-bit range. -/
def product? (a b : Int64) : Option Int64 := Text.int64? (a.toInt * b.toInt)

inductive Measure where
  /-- Numbers, multiplied by a factor. -/
  | number (multiplier : Int64) (isSortable : Bool)
  /-- Seconds; numbers are minutes. -/
  | duration (units : DurationUnits) (isSortable : Bool)
  /-- Minutes; numbers are milliseconds after the start of 1970, and so is the present. -/
  | date (now : Option Int)

structure Bounds where
  lower : String
  upper : String
deriving DecidableEq

def Bounds.exact (word : String) : Bounds := ⟨word, word⟩

def readScaled? (multiplier : Int64) : Literal → Option Int64
  | .number n => product? n multiplier
  | .text s => (Text.readInt64? (Text.trimChars s.toList)).bind (product? · multiplier)
  | .empty => none

def readSeconds? (units : DurationUnits) : Literal → Option Int64
  | .number n => product? n DurationUnits.minute
  | .text s => readDuration? units s.toList
  | .empty => none

def readMoment? (now : Option Int) : Literal → Option Moment
  | .number n => (Minute.ofMillis? n.toInt).map .minute
  | .text s => Moment.read? now s.toList
  | .empty => none

namespace Measure

def bounds? (m : Measure) (l : Literal) : Option Bounds :=
  match m with
  | .number multiplier isSortable =>
    (readScaled? multiplier l).map fun n => .exact (encodeInt isSortable n)
  | .duration units isSortable =>
    (readSeconds? units l).map fun n => .exact (encodeInt isSortable n)
  | .date now =>
    (readMoment? now l).map fun moment => ⟨moment.first.write, moment.last.write⟩

/-- The word under which a literal is indexed; of a day, its first minute. -/
def word? (m : Measure) (l : Literal) : Option String := (m.bounds? l).map (·.lower)

end Measure

inductive Encoding where
  /-- Texts as they are, or in lower case. -/
  | text (lowercase : Bool)
  | measure (m : Measure)
  | constants (v : Vocabulary)

/-- All words that a literal can stand for. -/
def Encoding.words (e : Encoding) (l : Literal) : List String :=
  match e with
  | .text lowercase => (l.text?.map fun s => if lowercase then Text.lower s else s).toList
  | .measure m => (m.word? l).toList
  | .constants v => v.values l

end FilterCompiler.Value
