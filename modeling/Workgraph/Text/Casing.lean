import Workgraph.Text.CaseTable

/-!
# Letter case

Lower case and title case of whole texts. Both work character by character, except for the capital
sigma: it becomes the final sigma where a cased letter stands before it and none stands after it,
ignorable characters passed over.
-/

namespace Workgraph.Text

def isCased (c : Char) : Bool :=
  if c.toNat < 128 then c.isAlpha else inRanges casedRanges c.toNat

/-- Whether a character is passed over when the neighbours of a letter are looked at. -/
def isIgnorable (c : Char) : Bool :=
  if c.toNat < 128 then [39, 46, 58, 94, 96].contains c.toNat
  else inRanges ignorableRanges c.toNat

def isUpper (c : Char) : Bool :=
  if c.toNat < 128 then c.isUpper else upperRuns.any (·.covers c.toNat)

/-- The lower case form of a character that stands alone. -/
def lowerChar (c : Char) : List Char :=
  if c.toNat < 128 then [c.toLower]
  else if c.toNat = 0x130 then ['i', Char.ofNat 0x307]
  else
    match CaseRun.target? lowerRuns c.toNat with
    | some n => [Char.ofNat n]
    | none => [c]

def titleChar (c : Char) : List Char :=
  if c.toNat < 128 then [c.toUpper]
  else
    match titleExpansions.lookup c.toNat with
    | some points => points.map Char.ofNat
    | none =>
      match CaseRun.target? titleRuns c.toNat with
      | some n => [Char.ofNat n]
      | none => [c]

/-- Whether the first character that is not ignorable has a case. -/
def leadsToCased : List Char → Bool
  | [] => false
  | c :: rest => if isIgnorable c then leadsToCased rest else isCased c

/-- Whether a cased letter stands before what follows `c`, given whether one stands before `c`. -/
def casedPast (cased : Bool) (c : Char) : Bool :=
  if isIgnorable c then cased else isCased c

/-- The lower case form of `c` with `rest` after it; `cased` says whether a cased letter stands
before it. -/
def lowerWithin (cased : Bool) (c : Char) (rest : List Char) : List Char :=
  if c = 'Σ' then [if cased && !leadsToCased rest then 'ς' else 'σ'] else lowerChar c

/-- Lower case of a text that follows a cased letter or not. -/
def lowerFrom (cased : Bool) : List Char → List Char
  | [] => []
  | c :: rest => lowerWithin cased c rest ++ lowerFrom (casedPast cased c) rest

def lower (s : List Char) : List Char := lowerFrom false s

/-- Title case of a text; `inWord` says whether the character before it has a case. -/
def titleFrom (inWord cased : Bool) : List Char → List Char
  | [] => []
  | c :: rest =>
    (if inWord then lowerWithin cased c rest else titleChar c) ++
      titleFrom (isCased c) (casedPast cased c) rest

/-- Title case of a text: the first letter of each word is a capital, the others are small. -/
def title (s : List Char) : List Char := titleFrom false false s

end Workgraph.Text
