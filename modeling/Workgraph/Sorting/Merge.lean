import Workgraph.Sorting.Boundary

/-!
# Merging two runs

Two neighbouring runs are merged from their starts or from their ends. Items are compared one by one
until one run has supplied several in a row; from then on the number that it can supply is searched for.
How many in a row that takes is adjusted on the way. Where a comparison fails the items stay as they are
by then, and none is lost.
-/

namespace Workgraph.Sorting

/-- The ends of the runs at which a merge takes items. -/
inductive Direction where
  | forward
  | backward

/-- What a merge does next. In a round of searches, items are taken from the left run, one from the
right, more from the right, and one from the left; the counts are those of the two searches. -/
inductive Phase where
  | compare (leftInRow rightInRow : Nat)
  | skipLeft
  | giveRight (leftCount : Nat)
  | skipRight (leftCount : Nat)
  | giveLeft (leftCount rightCount : Nat)

namespace Phase

/-- Whether the phase is a search, which may take no item. -/
def rank : Phase → Nat
  | .skipLeft | .skipRight _ => 1
  | _ => 0

end Phase

/-- The items after a merge, the patience for the next one, and the fault that ended it. -/
structure Merged (ε α : Type) where
  items : List α
  patience : Nat
  fault : Option ε

/-- The patience of the first merge, and the count from which on searches go on. -/
def firstPatience : Nat := 7

namespace Direction

/-- Whether no more comparison is needed: one run is used up, or the other one is down to the item
that comes last. -/
def isOver (d : Direction) (left right : List α) : Bool :=
  match d with
  | .forward => right.isEmpty || left.length ≤ 1
  | .backward => left.isEmpty || right.length ≤ 1

/-- What is left of the runs when the merge is over, in the order in which items are taken. -/
def settled (d : Direction) (left right : List α) : List α :=
  match d with
  | .forward => right ++ left
  | .backward => left ++ right

/-- What is left of the runs as they stand, in the order in which items are taken. -/
def unsettled (d : Direction) (left right : List α) : List α :=
  match d with
  | .forward => left ++ right
  | .backward => right ++ left

/-- Whether the item of the left run is taken before that of the right one. -/
def takesLeft (d : Direction) (less : α → α → Except ε Bool) (x y : α) : Except ε Bool :=
  match d with
  | .forward => return !(← less y x)
  | .backward => less y x

/-- The number of items of the left run that are taken before an item of the right one. -/
def countLeft (d : Direction) (less : α → α → Except ε Bool) (y : α) (left : List α) :
    Except ε Nat :=
  let before (x : α) : Except ε Bool := return !(← less y x)
  match d with
  | .forward => countFromStart before left
  | .backward => return left.length - (← countFromEnd before left.reverse)

/-- The number of items of the right run that are taken before an item of the left one. -/
def countRight (d : Direction) (less : α → α → Except ε Bool) (x : α) (right : List α) :
    Except ε Nat :=
  let before (y : α) : Except ε Bool := less y x
  match d with
  | .forward => countFromStart before right
  | .backward => return right.length - (← countFromEnd before right.reverse)

end Direction

/-- Merges on in a phase. The runs are in the order in which their items are taken, and `out` has the
items taken so far, the latest first. -/
def mergeFrom (less : α → α → Except ε Bool) (d : Direction) (phase : Phase) (patience : Nat)
    (out left right : List α) : Merged ε α :=
  if d.isOver left right then ⟨out.reverse ++ d.settled left right, patience, none⟩
  else
    match left, right with
    | x :: lefts, y :: rights =>
      match phase with
      | .compare leftInRow rightInRow =>
        match d.takesLeft less x y with
        | .error fault => ⟨out.reverse ++ d.unsettled (x :: lefts) (y :: rights), patience, some fault⟩
        | .ok true =>
          mergeFrom less d
            (if patience ≤ leftInRow + 1 then .skipLeft else .compare (leftInRow + 1) 0)
            patience (x :: out) lefts (y :: rights)
        | .ok false =>
          mergeFrom less d
            (if patience ≤ rightInRow + 1 then .skipLeft else .compare 0 (rightInRow + 1))
            patience (y :: out) (x :: lefts) rights
      | .skipLeft =>
        match d.countLeft less y (x :: lefts) with
        | .error fault => ⟨out.reverse ++ d.unsettled (x :: lefts) (y :: rights), patience, some fault⟩
        | .ok n =>
          mergeFrom less d (.giveRight n) patience (((x :: lefts).take n).reverse ++ out)
            ((x :: lefts).drop n) (y :: rights)
      | .giveRight n => mergeFrom less d (.skipRight n) patience (y :: out) (x :: lefts) rights
      | .skipRight n =>
        match d.countRight less x (y :: rights) with
        | .error fault => ⟨out.reverse ++ d.unsettled (x :: lefts) (y :: rights), patience, some fault⟩
        | .ok m =>
          mergeFrom less d (.giveLeft n m) patience (((y :: rights).take m).reverse ++ out)
            (x :: lefts) ((y :: rights).drop m)
      | .giveLeft n m =>
        if d.isOver lefts (y :: rights) then
          ⟨(x :: out).reverse ++ d.settled lefts (y :: rights), patience, none⟩
        else if firstPatience ≤ n ∨ firstPatience ≤ m then
          mergeFrom less d .skipLeft (if 1 < patience then patience - 1 else patience) (x :: out)
            lefts (y :: rights)
        else
          mergeFrom less d (.compare 0 0) (patience + 1) (x :: out) lefts (y :: rights)
    | _, _ => ⟨out.reverse ++ d.settled left right, patience, none⟩
termination_by 2 * (left.length + right.length) + phase.rank
decreasing_by
  all_goals simp only [List.length_cons, List.length_drop, Phase.rank]
  all_goals try split
  all_goals omega

/-- Merges two runs from their starts. The first item of the right run comes first. -/
def mergeForward (less : α → α → Except ε Bool) (patience : Nat) (left right : List α) :
    Merged ε α :=
  mergeFrom less .forward (.compare 0 0) patience (right.take 1) left (right.drop 1)

/-- Merges two runs from their ends. The last item of the left run comes last. -/
def mergeBackward (less : α → α → Except ε Bool) (patience : Nat) (left right : List α) :
    Merged ε α :=
  let merged := mergeFrom less .backward (.compare 0 0) patience (left.reverse.take 1)
    (left.reverse.drop 1) right.reverse
  { merged with items := merged.items.reverse }

/-- Merges the parts of two runs that are out of order, from the side of the shorter part. -/
def mergeParts (less : α → α → Except ε Bool) (patience : Nat) (left right : List α) : Merged ε α :=
  if left.length ≤ right.length then mergeForward less patience left right
  else mergeBackward less patience left right

/-- Merges two neighbouring runs. What precedes the first item of the right run stays, and so does what
follows the last item of the left one. -/
def mergeRuns (less : α → α → Except ε Bool) (patience : Nat) (left right : List α) : Merged ε α :=
  let bounds : Except ε (Nat × Nat) := do
    let low ← match right.head? with
      | some y => countFromStart (fun x => return !(← less y x)) left
      | none => pure left.length
    let high ← match (left.drop low).getLast? with
      | some x => countFromEnd (fun y => less y x) right
      | none => pure 0
    return (low, high)
  match bounds with
  | .error fault => ⟨left ++ right, patience, some fault⟩
  | .ok (low, high) =>
    if high = 0 then ⟨left ++ right, patience, none⟩
    else
      let merged := mergeParts less patience (left.drop low) (right.take high)
      { merged with items := left.take low ++ merged.items ++ right.drop high }

end Workgraph.Sorting
