import Workgraph.Text.Quoted

/-!
# Faults

Why a step of a workflow can fail, and the wording of each cause.
-/

namespace Workgraph

/-- The cause of a failure. -/
inductive Fault where
  /-- A record has no field of this name. -/
  | missingKey (key : String)
  /-- An operation met a value of a kind that it is not defined on. -/
  | wrongKind
  /-- A value of this kind has no operation of the name that was asked for. -/
  | noOperation
  /-- A position lies outside a list. -/
  | outOfBounds
  /-- A text was read as an integer and is none. -/
  | notAnInteger (source : String)
  /-- A text was read as a decimal number and is none. -/
  | notADecimal (source : String)
  /-- An integer has more digits than are read or written; their number is told where they were read. -/
  | tooManyDigits (count : Option Nat)
  /-- What is no number was cut to an integer. -/
  | integerOfNan
  /-- An infinity was cut to an integer. -/
  | integerOfInfinity
  /-- An integer has no double near it. -/
  | integerTooLarge
  /-- A quotient of integers has no double near it. -/
  | quotientTooLarge
  /-- A count of repetitions does not fit into a machine word. -/
  | countTooLarge
  /-- The length of a repeated text does not fit into a machine word. -/
  | textTooLong
  /-- A text or list is too long for the memory. -/
  | outOfMemory
  /-- A power of a double is out of range. -/
  | powerTooLarge
  | divisionByZero
  /-- A date lies after the last day of the calendar. -/
  | dateOutOfRange
  deriving DecidableEq, Repr

namespace Fault

/-- The number of digits up to which an integer is read or written. -/
def digitLimit : Nat := 4300

/-- The wording of a fault; a fault about the kind of a value has none. -/
def message? : Fault → Option String
  | .missingKey key => some (Text.quoted key)
  | .wrongKind | .noOperation | .outOfBounds | .outOfMemory => none
  | .notAnInteger source =>
    some ("invalid literal for int() with base 10: " ++
      String.ofList ((Text.quote source.toList).take 200))
  | .notADecimal source => some ("could not convert string to float: " ++ Text.quoted source)
  | .tooManyDigits count =>
    let told := match count with
      | some n => s!": value has {n} digits"
      | none => ""
    some (s!"Exceeds the limit ({digitLimit} digits) for integer string conversion" ++ told ++
      "; use sys.set_int_max_str_digits() to increase the limit")
  | .integerOfNan => some "cannot convert float NaN to integer"
  | .integerOfInfinity => some "cannot convert float infinity to integer"
  | .integerTooLarge => some "int too large to convert to float"
  | .quotientTooLarge => some "integer division result too large for a float"
  | .countTooLarge => some "cannot fit 'int' into an index-sized integer"
  | .textTooLong => some "repeated string is too long"
  | .powerTooLarge => some "(34, 'Numerical result out of range')"
  | .divisionByZero => some "division by zero"
  | .dateOutOfRange => some "date value out of range"

/-- Whether the fault is that a value of the right kind has contents that cannot be converted. -/
def isUnreadable : Fault → Bool
  | .notAnInteger _ | .notADecimal _ | .tooManyDigits _ | .integerOfNan => true
  | _ => false

end Fault

end Workgraph
