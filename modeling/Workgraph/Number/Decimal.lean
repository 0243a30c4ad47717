import Workgraph.Number.Binary64

/-!
# Doubles as decimal text

A double is written with the fewest digits that read back as the same double, the nearest such digits if
there are several. Amounts are written with a fixed number of places, a half going to the even
neighbour.
-/

namespace Workgraph.Decimal

/-- The significant digits of a positive number and the power of ten of the first one. -/
structure Scientific where
  digits : List Char
  exponent : Int

/-- A positive fraction of integers. -/
structure Ratio where
  num : Nat
  den : Nat

namespace Ratio

/-- The number `n * 2 ^ two * 10 ^ ten`. -/
def scaled (n : Nat) (two ten : Int) : Ratio where
  num := n * Nat.pow 2 two.toNat * Nat.pow 10 ten.toNat
  den := Nat.pow 2 (-two).toNat * Nat.pow 10 (-ten).toNat

def less (a b : Ratio) : Bool := a.num * b.den < b.num * a.den

def distance (a b : Ratio) : Ratio where
  num := (a.num * b.den - b.num * a.den) + (b.num * a.den - a.num * b.den)
  den := a.den * b.den

/-- The exponent of the first decimal digit. Below one it is `-k` for the least `k` with
`den ≤ num * 10 ^ k`, which is the number of digits of `(den - 1) / num`. -/
def exponent (a : Ratio) : Int :=
  if a.num < a.den then -((Nat.toDigits 10 ((a.den - 1) / a.num)).length : Int)
  else ((Nat.toDigits 10 (a.num / a.den)).length : Int) - 1

end Ratio

/-- Whether every real between the neighbours of `m * 2 ^ e` reads back as it: the bounds are the
midpoints to the neighbours, and belong to the interval when `m` is even. -/
def readsBack (m : Nat) (e : Int) (x : Ratio) : Bool :=
  let low := Ratio.scaled (if m = Nat.pow 2 52 && -1074 < e then 4 * m - 1 else 4 * m - 2) (e - 2) 0
  let high := Ratio.scaled (4 * m + 2) (e - 2) 0
  if m % 2 = 0 then !x.less low && !high.less x else low.less x && x.less high

/-- The decimal nearest to `m * 2 ^ e` among those that read back as it and whose last digit stands
for `10 ^ place`. -/
def atPlace? (m : Nat) (e : Int) (place : Int) : Option Scientific :=
  let value := Ratio.scaled m e 0
  let below :=
    let unit := Ratio.scaled 1 0 place
    value.num * unit.den / (value.den * unit.num)
  let onGrid (n : Nat) := Ratio.scaled n 0 place
  let nearer (n k : Nat) : Nat :=
    let left := (onGrid n).distance value
    let right := (onGrid k).distance value
    if left.less right then n
    else if right.less left then k
    else if n % 2 = 0 then n else k
  let chosen? : Option Nat :=
    match readsBack m e (onGrid below), readsBack m e (onGrid (below + 1)) with
    | true, true => some (nearer below (below + 1))
    | true, false => some below
    | false, true => some (below + 1)
    | false, false => none
  chosen?.map fun n =>
    let digits := Nat.toDigits 10 n
    { digits, exponent := place + digits.length - 1 }

/-- The fewest digits that read back as the positive number `m * 2 ^ e`. -/
def shortest (m : Nat) (e : Int) : Scientific :=
  let first := (Ratio.scaled m e 0).exponent
  ((List.range 17).findSome? fun (n : Nat) => atPlace? m e (first - n)).getD ⟨['0'], 0⟩

/-- The digits without the zeros that end them. -/
def significant (digits : List Char) : List Char :=
  (digits.reverse.dropWhile (· == '0')).reverse

/-- The digits with the point at its place, and a zero after a point that would end the text. -/
def positional (digits : List Char) (exponent : Int) : List Char :=
  if exponent < 0 then
    '0' :: '.' :: List.replicate (-exponent - 1).toNat '0' ++ digits
  else
    let whole := exponent.toNat + 1
    if digits.length ≤ whole then
      digits ++ List.replicate (whole - digits.length) '0' ++ ['.', '0']
    else
      digits.take whole ++ '.' :: digits.drop whole

/-- The digits with the point after the first one, and the exponent with its sign and at least two
digits. -/
def exponential (digits : List Char) (exponent : Int) : List Char :=
  let power := Nat.toDigits 10 exponent.natAbs
  digits.take 1 ++ (if digits.length ≤ 1 then [] else '.' :: digits.drop 1) ++
    ['e', if exponent < 0 then '-' else '+'] ++
    (if power.length < 2 then '0' :: power else power)

/-- The text of a double: positional from `10 ^ (-4)` to below `10 ^ 16`, else with an exponent. -/
def text (x : Float) : String :=
  match Binary64.read x with
  | .nan => "nan"
  | .infinite negative => if negative then "-inf" else "inf"
  | .finite negative m e =>
    let sign := if negative then ['-'] else []
    if m = 0 then String.ofList (sign ++ ['0', '.', '0'])
    else
      let found := shortest m e
      let digits := significant found.digits
      String.ofList (sign ++
        (if -4 ≤ found.exponent && found.exponent < 16 then positional digits found.exponent
        else exponential digits found.exponent))

/-- The text of a double with a fixed, positive number of places. -/
def fixed (places : Nat) (x : Float) : String :=
  match Binary64.read x with
  | .nan => "nan"
  | .infinite negative => if negative then "-inf" else "inf"
  | .finite negative m e =>
    let value := Ratio.scaled m e places
    let units := Binary64.divideRounding value.num value.den
    let fraction := Nat.toDigits 10 (units % Nat.pow 10 places)
    String.ofList
      ((if negative then ['-'] else []) ++ Nat.toDigits 10 (units / Nat.pow 10 places) ++
        '.' :: List.replicate (places - fraction.length) '0' ++ fraction)

end Workgraph.Decimal
