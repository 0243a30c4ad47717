import Workgraph.Text.Blank

/-!
# Searching and cutting text

Occurrence of one text in another, replacement of all occurrences, and the ways of cutting a text
into pieces: at a character, at gaps, and at line ends.
-/

namespace Workgraph.Text

def occurs (pattern : List Char) : List Char → Bool
  | [] => pattern.isEmpty
  | c :: rest => pattern.isPrefixOf (c :: rest) || occurs pattern rest

theorem occurs_iff_infix (pattern s : List Char) : occurs pattern s = true ↔ pattern <:+: s := by
  induction s with
  | nil => simp [occurs]
  | cons c rest ih =>
      rw [occurs, Bool.or_eq_true, List.isPrefixOf_iff_prefix, ih, List.infix_cons_iff]

def anyOccurs (words : List String) (s : List Char) : Bool :=
  words.any fun word => occurs word.toList s

theorem anyOccurs_iff (words : List String) (s : List Char) :
    anyOccurs words s = true ↔ ∃ word ∈ words, word.toList <:+: s := by
  simp only [anyOccurs, List.any_eq_true, occurs_iff_infix]

/-- Replacement with the first `skip` characters left out: they belong to an occurrence that is
already replaced. -/
def replaceFrom (pattern new : List Char) : Nat → List Char → List Char
  | _, [] => []
  | skip + 1, _ :: rest => replaceFrom pattern new skip rest
  | 0, c :: rest =>
    if pattern.isPrefixOf (c :: rest) then
      new ++ replaceFrom pattern new (pattern.length - 1) rest
    else
      c :: replaceFrom pattern new 0 rest

/-- Replaces the occurrences of a non-empty pattern, from the left and without overlap. -/
def replace (pattern new s : List Char) : List Char := replaceFrom pattern new 0 s

/-- Counts with the first `skip` characters left out: they belong to an occurrence that is already
counted. -/
def countFrom (pattern : List Char) : Nat → List Char → Nat
  | _, [] => 0
  | skip + 1, _ :: rest => countFrom pattern skip rest
  | 0, c :: rest =>
    if pattern.isPrefixOf (c :: rest) then 1 + countFrom pattern (pattern.length - 1) rest
    else countFrom pattern 0 rest

/-- The number of occurrences of a non-empty pattern, from the left and without overlap. -/
def count (pattern s : List Char) : Nat := countFrom pattern 0 s

/-- The pieces between the characters that `divides` holds of; there is always one more piece than
such characters. -/
def splitWhere (divides : Char → Bool) : List Char → List (List Char)
  | [] => [[]]
  | c :: rest =>
    if divides c then [] :: splitWhere divides rest
    else
      match splitWhere divides rest with
      | [] => [[c]]
      | piece :: pieces => (c :: piece) :: pieces

/-- The pieces between the occurrences of a character. -/
def splitAt (mark : Char) (s : List Char) : List (List Char) := splitWhere (· == mark) s

/-- The last of the pieces between the occurrences of a character. -/
def lastPiece (mark : Char) (s : List Char) : List Char := (splitAt mark s).getLastD []

/-- The words of a text, divided by gaps. -/
def words (s : List Char) : List (List Char) :=
  (splitWhere isGap s).filter (!·.isEmpty)

/-- A piece without the carriage return that ends it. -/
def dropReturn (piece : List Char) : List Char :=
  if piece.getLast? = some '\r' then piece.dropLast else piece

/-- What becomes of a carriage return that ends a text, with no newline behind it. Older libraries take it
for a line end, newer ones for a character of the last line. -/
inductive FinalReturn where
  | dropped
  | kept

/-- The line that a last piece makes up. -/
def FinalReturn.line : FinalReturn → List Char → List Char
  | .dropped, piece => dropReturn piece
  | .kept, piece => piece

/-- The lines that the pieces between newlines make up: a carriage return at the end of a piece
belongs to the line end, and an empty last piece is no line. -/
def linesOfPieces (final : FinalReturn) : List (List Char) → List (List Char)
  | [] => []
  | [last] => if last.isEmpty then [] else [final.line last]
  | piece :: pieces => dropReturn piece :: linesOfPieces final pieces

def lines (final : FinalReturn) (s : List Char) : List (List Char) :=
  linesOfPieces final (splitAt '\n' s)

/-- Puts a mark between texts. -/
def join (mark : String) : List String → String
  | [] => ""
  | [s] => s
  | s :: rest => s ++ mark ++ join mark rest

end Workgraph.Text
