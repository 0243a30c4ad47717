import Workgraph.Number.Basic
import Workgraph.Text.Blank
import Workgraph.Text.Digit

/-!
# Numerals

Reading integers and decimal numbers from text. White space around a numeral is passed over, digits of
all scripts count, and a single underscore may stand between two digits.
-/

namespace Workgraph.Numeral

/-- The digits of all scripts in their ASCII form. -/
def plain (c : Char) : Char :=
  match Text.digitValue? c with
  | some d => Char.ofNat (48 + d)
  | none => c

/-- The text of a numeral without the white space around it, its digits in ASCII. -/
def normal (s : String) : List Char := (Text.trim Text.isWhite s.toList).map plain

/-- The number that ASCII digits stand for. -/
def value (digits : List Char) : Nat :=
  digits.foldl (fun n c => 10 * n + (c.toNat - 48)) 0

/-- Cuts off a sign and says whether it is a minus. -/
def sign : List Char → Bool × List Char
  | '+' :: rest => (false, rest)
  | '-' :: rest => (true, rest)
  | s => (false, s)

/-- Whether each underscore stands between two digits; `afterDigit` says whether a digit stands before
the text. -/
def underscoresDivide (afterDigit : Bool) : List Char → Bool
  | [] => true
  | c :: rest =>
    (c != '_' || (afterDigit && (rest.head?.map Char.isDigit).getD false)) &&
      underscoresDivide c.isDigit rest

def readInt (s : String) : Except Fault Int :=
  let (negative, body) := sign (normal s)
  let run := body.takeWhile fun c => c.isDigit || c == '_'
  let digits := run.filter Char.isDigit
  if digits.isEmpty || !underscoresDivide false run then .error (.notAnInteger s)
  else if Fault.digitLimit < digits.length then .error (.tooManyDigits (some digits.length))
  else if run.length < body.length then .error (.notAnInteger s)
  else .ok (if negative then -(value digits : Int) else value digits)

/-- Reads the exponent at the end of a decimal number; a text without one has exponent zero. -/
def readExponent? : List Char → Option Int
  | [] => some 0
  | c :: rest =>
    if c = 'e' || c = 'E' then
      let (negative, digits) := sign rest
      if digits.isEmpty || !digits.all Char.isDigit then none
      else some (if negative then -(value digits : Int) else value digits)
    else none

/-- Reads an unsigned decimal number into its digits and its exponent. -/
def readDecimal? (s : List Char) : Option (Nat × Int) :=
  let whole := s.takeWhile Char.isDigit
  let (fraction, rest) :=
    match s.dropWhile Char.isDigit with
    | '.' :: t => (t.takeWhile Char.isDigit, t.dropWhile Char.isDigit)
    | t => ([], t)
  if whole.isEmpty && fraction.isEmpty then none
  else
    (readExponent? rest).map fun exponent =>
      (value (whole ++ fraction), exponent - fraction.length)

/-- Reads a number with or without a point and an exponent, an infinity, or what is no number. -/
def readFloat (s : String) : Except Fault Float :=
  let source := normal s
  let (negative, body) := sign (source.filter (· != '_'))
  let named := String.ofList (body.map Char.toLower)
  if !underscoresDivide false source then .error (.notADecimal s)
  else if named == "nan" then .ok (0 / 0)
  else if named == "inf" || named == "infinity" then
    .ok (Binary64.ofMagnitude negative Binary64.infinityBits)
  else
    match readDecimal? body with
    | some (digits, exponent) => .ok (Binary64.ofDecimal negative digits exponent)
    | none => .error (.notADecimal s)

end Workgraph.Numeral
