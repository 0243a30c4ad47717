/-!
# Boundaries

The search for the position from which on a condition no longer holds. It starts at a guess, moves away
from it in steps that double, and then halves the range that is left. Deciding the condition may fail.
-/

namespace Workgraph.Sorting

/-- The position from `low` to `high` from which on a condition no longer holds; the range is halved. -/
def halve (holds : Nat → Except ε Bool) (low high : Nat) : Except ε Nat :=
  if low < high then
    let middle := low + (high - low) / 2
    match holds middle with
    | .error fault => .error fault
    | .ok true => halve holds (middle + 1) high
    | .ok false => halve holds low middle
  else .ok high
termination_by high - low

/-- Goes on in steps that double while a condition holds. The answer is the last step at which it was
seen to hold and the next one, which is at most the limit. -/
def stride (holds : Nat → Except ε Bool) (limit last next : Nat) : Except ε (Nat × Nat) :=
  if next < limit then
    match holds next with
    | .error fault => .error fault
    | .ok true => stride holds limit next (2 * next + 1)
    | .ok false => .ok (last, next)
  else .ok (last, limit)
termination_by limit - next

/-- The position up to `size` from which on a condition no longer holds, searched from a guess. -/
def boundary (holds : Nat → Except ε Bool) (size guess : Nat) : Except ε Nat := do
  if ← holds guess then
    let (last, next) ← stride (fun step => holds (guess + step)) (size - guess) 0 1
    halve holds (guess + last + 1) (guess + next)
  else
    let (last, next) ← stride (fun step => return !(← holds (guess - step))) (guess + 1) 0 1
    halve holds (guess + 1 - next) (guess - last)

/-- A condition on the item at a position; it holds of no position outside the list. -/
def atPosition (holds : α → Except ε Bool) (items : List α) (position : Nat) : Except ε Bool :=
  match items[position]? with
  | some item => holds item
  | none => .ok false

/-- The number of items at the start of a list of which a condition holds, searched from the start. -/
def countFromStart (holds : α → Except ε Bool) (items : List α) : Except ε Nat :=
  boundary (atPosition holds items) items.length 0

/-- The number of items at the start of a list of which a condition holds, searched from the end. -/
def countFromEnd (holds : α → Except ε Bool) (items : List α) : Except ε Nat :=
  boundary (atPosition holds items) items.length (items.length - 1)

end Workgraph.Sorting
