import PointerTrace.Document.Binary
import PointerTrace.Document.Value
import PointerTrace.Document.Yaml.Fault
import PointerTrace.Text.LowerCase
import PointerTrace.Text.Pattern

/- Scalars of YAML 1.1: which tag the form of a plain scalar gives it, and the value of a scalar with
   a tag. A number may hold underscores, be written in another base, or be a sum of base-sixty
   parts; a fraction needs a point, and its exponent a sign. -/
namespace PointerTrace.Document.Yaml

/-- The tags that a document may use. -/
inductive Tag where
  | null
  | bool
  | int
  | float
  | text
  | timestamp
  | mergeKey
  | defaultValue
  | binary
  | list
  | mapping
  | set
  | pairs
  | unknown
  deriving DecidableEq, Repr

/-- The full names of the tags that a document may write out. -/
def tagNames : List (String × Tag) := [
  ("tag:yaml.org,2002:null", .null), ("tag:yaml.org,2002:bool", .bool),
  ("tag:yaml.org,2002:int", .int), ("tag:yaml.org,2002:float", .float),
  ("tag:yaml.org,2002:str", .text), ("tag:yaml.org,2002:timestamp", .timestamp),
  ("tag:yaml.org,2002:merge", .mergeKey), ("tag:yaml.org,2002:value", .defaultValue),
  ("tag:yaml.org,2002:binary", .binary), ("tag:yaml.org,2002:seq", .list),
  ("tag:yaml.org,2002:map", .mapping), ("tag:yaml.org,2002:set", .set),
  ("tag:yaml.org,2002:omap", .pairs), ("tag:yaml.org,2002:pairs", .pairs)]

/-- The tag with a full name. -/
def Tag.ofName (name : String) : Tag := (tagNames.lookup name).getD .unknown

section Forms

open PointerTrace.Text
open PointerTrace.Text.Pattern

/-- A decimal digit. -/
def digit : Pattern := .one Char.isDigit

/-- A digit or an underscore. -/
def spaced : Pattern := .one fun c => c.isDigit || c = '_'

/-- An optional sign. -/
def sign : Pattern := optional (oneOf ['-', '+'])

/-- A digit with digits and underscores after it. -/
def digitRun : Pattern := .seq digit (.many spaced)

/-- An exponent, which must have a sign. -/
def exponent : Pattern := inOrder [oneOf ['e', 'E'], oneOf ['-', '+'], oneOrMore digit]

/-- Parts below sixty, each after a colon. -/
def sixties : Pattern :=
  oneOrMore (inOrder [word ":", optional (.one fun c => '0' ≤ c && c ≤ '5'), digit])

/-- The words that are truth values, in each of three capitalisations. -/
def boolForm : Pattern := words ["yes", "Yes", "YES", "no", "No", "NO", "true", "True", "TRUE",
  "false", "False", "FALSE", "on", "On", "ON", "off", "Off", "OFF"]

/-- The forms of fractions, infinities and the undefined number. -/
def floatForm : Pattern := anyOf [
  inOrder [sign, digitRun, word ".", .many spaced, optional exponent],
  inOrder [word ".", digitRun, optional exponent],
  inOrder [sign, digitRun, sixties, word ".", .many spaced],
  inOrder [sign, words [".inf", ".Inf", ".INF"]],
  words [".nan", ".NaN", ".NAN"]]

/-- The forms of whole numbers: binary, octal, decimal, hexadecimal and base sixty. -/
def intForm : Pattern :=
  let isHex := fun c : Char => c.isDigit || ('a' ≤ c && c ≤ 'f') || ('A' ≤ c && c ≤ 'F') || c = '_'
  let leading : Pattern := .one fun c => '1' ≤ c && c ≤ '9'
  .seq sign (anyOf [
    .seq (word "0b") (oneOrMore (oneOf ['0', '1', '_'])),
    .seq (word "0") (oneOrMore (.one fun c => ('0' ≤ c && c ≤ '7') || c = '_')),
    word "0",
    .seq leading (.many spaced),
    .seq (word "0x") (oneOrMore (.one isHex)),
    inOrder [leading, .many spaced, sixties]])

/-- The forms of null. -/
def nullForm : Pattern := words ["~", "null", "Null", "NULL", ""]

/-- One or two digits. -/
def upToTwoDigits : Pattern := .seq digit (optional digit)

/-- A year. -/
def yearForm : Pattern := inOrder [digit, digit, digit, digit]

/-- Two digits. -/
def twoDigits : Pattern := .seq digit digit

/-- The forms of a time of day with what stands between it and the day, and with its offset. -/
def timeForm : Pattern :=
  let blanks := oneOf [' ', '\t']
  inOrder [.choice (oneOf ['T', 't']) (oneOrMore blanks), upToTwoDigits, word ":", twoDigits,
    word ":", twoDigits, optional (.seq (word ".") (.many digit)),
    optional (.seq (.many blanks) (.choice (word "Z")
      (inOrder [oneOf ['-', '+'], upToTwoDigits, optional (.seq (word ":") twoDigits)])))]

/-- The forms of days whose month and day may have one digit. -/
def looseDayForm : Pattern := inOrder [yearForm, word "-", upToTwoDigits, word "-", upToTwoDigits]

/-- The forms that are timestamps without a tag: days of full length, and moments. -/
def timestampForm : Pattern := anyOf [
  inOrder [yearForm, word "-", twoDigits, word "-", twoDigits], .seq looseDayForm timeForm]

/-- The forms that a tag allows for timestamps. -/
def taggedTimestampForm : Pattern := .seq looseDayForm (optional timeForm)

/-- Whether a text has a form, possibly with a line end after it. -/
def hasForm (p : Pattern) (cs : List Char) : Bool :=
  p.accepts cs || (cs.length ≠ 1 && cs.getLast? = some '\n' && p.accepts cs.dropLast)

end Forms

/-- The tag that the form of a plain scalar gives it. -/
def Tag.ofPlain (s : String) : Tag :=
  let cs := s.toList
  if hasForm boolForm cs then .bool
  else if hasForm floatForm cs then .float
  else if hasForm intForm cs then .int
  else if hasForm (Text.Pattern.word "<<") cs then .mergeKey
  else if hasForm nullForm cs then .null
  else if hasForm timestampForm cs then .timestamp
  else if hasForm (Text.Pattern.word "=") cs then .defaultValue
  else .text

/-- Leaves out underscores. -/
def withoutUnderscores (cs : List Char) : List Char := cs.filter (· ≠ '_')

/-- Splits at a character. -/
def splitAt (c : Char) (cs : List Char) : List (List Char) :=
  cs.foldr (fun x parts => if x = c then [] :: parts else
    match parts with
    | part :: rest => (x :: part) :: rest
    | [] => [[x]]) [[]]

/-- The value of base-sixty parts. -/
def sixtyValue (parts : List Int) : Int := parts.foldl (fun n d => 60 * n + d) 0

/-- The value of a whole number without sign and underscores. -/
def magnitude (cs : List Char) : Except ScalarFault Int :=
  match cs with
  | [] => .error .emptyNumber
  | ['0'] => .ok 0
  | '0' :: 'b' :: rest => readInteger 2 rest
  | '0' :: 'x' :: rest => readInteger 16 rest
  | '0' :: _ => readInteger 8 cs
  | _ =>
    if cs.contains ':' then sixtyValue <$> (splitAt ':' cs).mapM (readInteger 10)
    else readInteger 10 cs

/-- The value of a whole number. -/
def intValue (s : String) : Except ScalarFault Int :=
  let (negative, cs) := Decimal.splitSign (withoutUnderscores s.toList)
  (fun n => if negative then -n else n) <$> magnitude cs

/-- Reads a double in small letters, or says that it is none. -/
def readDouble (cs : List Char) : Except ScalarFault Float :=
  (Decimal.readFloat? cs).elim (.error (.notFloat (String.ofList cs))) .ok

/-- The sum of base-sixty parts, given from the last one on, with the weight of the first of them. A
    weight beyond all doubles is a fault. -/
def sixtySum (sum : Float) (weight : Nat) : List Float → Except ScalarFault Float
  | [] => .ok sum
  | x :: rest =>
    let w := Float.ofNat weight
    if w.isInf then .error .weightOverflow else sixtySum (sum + x * w) (weight * 60) rest

/-- What decides the value of a fraction: its text in small letters, without underscores. -/
def floatLetters (s : String) : List Char :=
  (Text.lower (String.ofList (withoutUnderscores s.toList))).toList

/-- Whether a fraction has the form of the undefined number that all documents share. -/
def isSharedNaN (s : String) : Bool := (Decimal.splitSign (floatLetters s)).2 = ".nan".toList

/-- The value of a fraction. -/
def floatValue (s : String) : Except ScalarFault Float := do
  let written := floatLetters s
  if written = [] then throw .emptyNumber
  let (negative, cs) := Decimal.splitSign written
  let signed := fun x : Float => if negative then -1.0 * x else x
  if cs = ".inf".toList then return signed (1.0 / 0.0)
  else if cs = ".nan".toList then return 0.0 / 0.0
  else if cs.contains ':' then
    let parts ← (splitAt ':' cs).mapM readDouble
    return signed (← sixtySum 0.0 1 parts.reverse)
  else return signed (← readDouble cs)

/-- The maximal runs of digits of a text. -/
def digitRuns (cs : List Char) : List (List Char) :=
  (cs.splitBy fun a b => a.isDigit == b.isDigit).filter fun run =>
    (run.head?.map Char.isDigit).getD false

/-- The first six digits of a fraction of a second, in microseconds. -/
def microseconds (ds : List Char) : Nat :=
  Decimal.value ((ds ++ List.replicate 6 '0').take 6)

/-- The offset that the rest of a timestamp after its time gives, in minutes. -/
def offsetValue (cs : List Char) : Option Int :=
  match cs.dropWhile fun c => c = ' ' || c = '\t' with
  | 'Z' :: _ => some 0
  | '-' :: rest => some (-(offsetMinutes rest))
  | '+' :: rest => some (offsetMinutes rest)
  | _ => none
where
  offsetMinutes (cs : List Char) : Int :=
    match digitRuns cs with
    | hours :: minutes :: _ => (Decimal.value hours * 60 + Decimal.value minutes : Nat)
    | [hours] => (Decimal.value hours * 60 : Nat)
    | [] => 0

/-- What follows the day, hour, minute and second of a timestamp: the fraction of a second and the
    offset. -/
def fractionAndOffset (cs : List Char) : Nat × Option Int :=
  match (cs.dropWhile (· ≠ ':')).drop 6 with
  | '.' :: rest => (microseconds (rest.takeWhile Char.isDigit),
      offsetValue (rest.dropWhile Char.isDigit))
  | rest => (0, offsetValue rest)

/-- The value of a timestamp: a day when there is no time, a moment otherwise. -/
def timestampValue (s : String) : Except Fault Value :=
  let cs := s.toList
  if !hasForm taggedTimestampForm cs then .error (.scalar .notTimestamp)
  else match (digitRuns cs).map Decimal.value with
    | [year, month, day] => match Date.make year month day with
      | .ok d => .ok (.date d)
      | .error f => .error (.scalar (.calendar f))
    | year :: month :: day :: hour :: minute :: second :: _ =>
      let (fraction, offset) := fractionAndOffset cs
      match Moment.make year month day hour minute second fraction offset with
      | .ok m => .ok (.moment m)
      | .error f => .error (.scalar (.calendar f))
    | _ => .error .malformed

/-- The value of a truth value. -/
def boolValue (s : String) : Except ScalarFault Bool :=
  let word := Text.lower s
  if word ∈ ["yes", "true", "on"] then .ok true
  else if word ∈ ["no", "false", "off"] then .ok false
  else .error (.notTruthValue word)

/-- The value of a scalar with a tag. -/
def scalarValue (tag : Tag) (s : String) : Except Fault Value :=
  match tag with
  | .null => .ok .null
  | .bool => ((boolValue s).mapError Fault.scalar).map Value.bool
  | .int => ((intValue s).mapError Fault.scalar).map Value.int
  | .float => ((floatValue s).mapError Fault.scalar).map Value.float
  | .text => .ok (.text s)
  | .timestamp => timestampValue s
  | .binary => (Binary.read? s.toList).elim (.error .malformed) (.ok ∘ Value.bytes)
  | .mergeKey | .defaultValue | .list | .mapping | .set | .pairs | .unknown => .error .malformed

end PointerTrace.Document.Yaml
