import PointerTrace.Decimal.Literal
import PointerTrace.Document.Calendar
import PointerTrace.Text.Quoted

/- Why a part of a document, or a number of a trace, has no value although the document is well
   formed. -/
namespace PointerTrace.Document

/-- What may be nested too deeply: the parts of a YAML document, or the arrays or objects of JSON. -/
inductive Nesting where
  | parts
  | arrays
  | objects
  deriving DecidableEq, Repr

/-- A part without value. Some tags ask for a form that the text does not have; numbers, days and
    characters may be out of range; a number may be too long to be read or written; and a document may
    be nested too deeply, or in itself where it must not be. -/
inductive ScalarFault where
  | tooManyDigits (count : Nat)
  | unwritable
  | notInteger (base : Nat) (given : String)
  | notFloat (given : String)
  | emptyNumber
  | weightOverflow
  | notTruthValue (given : String)
  | notTimestamp
  | timestampOfMapping
  | tooDeep (nesting : Nesting)
  | codePointRange
  | codePointOverflow
  | calendar (fault : CalendarFault)
  deriving DecidableEq, Repr

/-- How much of a quoted text is shown when it is no whole number. -/
def shownLength : Nat := 200

/-- Where nesting was found to be too deep, as far as it is said. -/
def Nesting.context : Nesting → String
  | .parts => ""
  | .arrays => " while decoding a JSON array from a unicode string"
  | .objects => " while decoding a JSON object from a unicode string"

/-- The wording of a scalar's fault. -/
def ScalarFault.message : ScalarFault → String
  | .tooManyDigits count => Decimal.tooLongMessage count
  | .unwritable => Decimal.unwritableMessage
  | .notInteger base given => "invalid literal for int() with base " ++ Decimal.ofNat base ++ ": " ++
      String.ofList ((Text.quoted given).toList.take shownLength)
  | .notFloat given => "could not convert string to float: " ++ Text.quoted given
  | .emptyNumber => "string index out of range"
  | .weightOverflow => "int too large to convert to float"
  | .notTruthValue given => Text.quoted given
  | .notTimestamp => "'NoneType' object has no attribute 'groupdict'"
  | .timestampOfMapping => "expected string or bytes-like object, got 'list'"
  | .tooDeep nesting => "maximum recursion depth exceeded" ++ nesting.context
  | .codePointRange => "chr() arg not in range(0x110000)"
  | .codePointOverflow => "Python int too large to convert to C int"
  | .calendar fault => fault.message

/-- Whether a fault is one of a value, which a reader of settings reports as such. The others end the
    program: a text without the form that its tag asks for, numbers that overflow, and nesting that is
    too deep. -/
def ScalarFault.isOfValue : ScalarFault → Bool
  | .tooManyDigits _ | .unwritable | .notInteger .. | .notFloat _ | .codePointRange
  | .calendar _ => true
  | .emptyNumber | .weightOverflow | .notTruthValue _ | .notTimestamp | .timestampOfMapping
  | .tooDeep _ | .codePointOverflow => false

/-- Reads a whole number in a base, or says what is wrong with it. -/
def readInteger (base : Nat) (cs : List Char) : Except ScalarFault Int :=
  (Decimal.readInt base cs).mapError fun
    | .notInteger => .notInteger base (String.ofList cs)
    | .tooManyDigits count => .tooManyDigits count

end PointerTrace.Document
