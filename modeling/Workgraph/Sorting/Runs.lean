import Workgraph.Sorting.Merge

/-!
# Sorting by runs

A list is cut into runs that are in order, short runs are made longer by insertion, and neighbouring runs are
merged. Which runs are merged first is told by the place of the boundary between them in the list.
The sort is stable. It works with comparisons that are not consistent or that fail: the result is then an
arrangement of the same items.
-/

namespace Workgraph.Sorting

/-- The items as a sort leaves them, and the fault that ended it. -/
structure Sorted (ε α : Type) where
  items : List α
  fault : Option ε

/-- The length of the run at the start of a list: strictly falling, or rising. -/
def runLength (less : α → α → Except ε Bool) (falling : Bool) : List α → Except ε Nat
  | a :: b :: rest => do
    if (← less b a) == falling then return 1 + (← runLength less falling (b :: rest))
    else return 1
  | items => .ok items.length

/-- The run at the start of a list, turned into rising order, and the rest. -/
def splitRun (less : α → α → Except ε Bool) (items : List α) : Except ε (List α × List α) :=
  match items with
  | a :: b :: _ => do
    let falling ← less b a
    let length ← runLength less falling items
    let run := items.take length
    return (if falling then run.reverse else run, items.drop length)
  | _ => .ok (items, [])

/-- Inserts items into a run one after the other, each behind those that are equal to it. A fault leaves
the others behind the run. -/
def insertAll (less : α → α → Except ε Bool) (run : List α) : List α → Sorted ε α
  | [] => ⟨run, none⟩
  | a :: rest =>
    match halve (atPosition (fun b => return !(← less a b)) run) 0 run.length with
    | .error fault => ⟨run ++ a :: rest, some fault⟩
    | .ok position => insertAll less (run.take position ++ a :: run.drop position) rest

/-- The number of items from which on a list is cut into several runs. -/
def smallSize : Nat := 64

/-- The length to which runs are extended: the six leading bits of the size, rounded up. -/
def runTarget (size : Nat) (roundUp : Bool) : Nat :=
  if size < smallSize then if roundUp then size + 1 else size
  else runTarget (size / 2) (roundUp || size % 2 == 1)
termination_by size
decreasing_by
  simp only [smallSize] at *
  omega

/-- The number of the first binary digit in which `low / size` and `high / size` differ, for numbers below
`size` that are doubled at each digit. -/
def digitPower (size : Nat) : Nat → Nat → Nat → Nat
  | 0, _, _ => 1
  | fuel + 1, low, high =>
    if size ≤ low then 1 + digitPower size fuel (2 * (low - size)) (2 * (high - size))
    else if size ≤ high then 1
    else 1 + digitPower size fuel (2 * low) (2 * high)

/-- The power of the boundary between two runs: the digits of their midpoints, as fractions of the whole
list, that are needed to tell them apart. -/
def boundaryPower (size start left right : Nat) : Nat :=
  digitPower size (size.log2 + 2) (2 * start + left) (2 * start + 2 * left + right)

/-- A run and the power of the boundary behind it. -/
structure Run (α : Type) where
  items : List α
  power : Nat

/-- The runs that wait for a merge, the latest first, and the patience of the next merge. -/
structure Pending (α : Type) where
  runs : List (Run α)
  patience : Nat

namespace Pending

def items (pending : Pending α) : List α := (pending.runs.reverse.map Run.items).flatten

end Pending

/-- Merges the latest runs while the boundary between them has a larger power. -/
def mergeAbove (less : α → α → Except ε Bool) (power patience : Nat) :
    List (Run α) → Pending α × Option ε
  | top :: below :: rest =>
    if power < below.power then
      let merged := mergeRuns less patience below.items top.items
      let runs := ⟨merged.items, below.power⟩ :: rest
      match merged.fault with
      | some fault => (⟨runs, merged.patience⟩, some fault)
      | none => mergeAbove less power merged.patience runs
    else (⟨top :: below :: rest, patience⟩, none)
  | runs => (⟨runs, patience⟩, none)
termination_by runs => runs.length

/-- Makes ready for a run of some length: the runs before it are merged as far as the power of its boundary
says, and the last of them keeps that power. -/
def prepare (less : α → α → Except ε Bool) (size length : Nat) (pending : Pending α) :
    Pending α × Option ε :=
  match pending.runs with
  | [] => (pending, none)
  | top :: below =>
    let start := below.foldr (fun run start => run.items.length + start) 0
    let power := boundaryPower size start top.items.length length
    let (merged, fault) := mergeAbove less power pending.patience pending.runs
    match merged.runs with
    | [] => (merged, fault)
    | run :: runs => ({ merged with runs := { run with power } :: runs }, fault)

/-- Merges all runs. The run before the latest is merged with the shorter of its neighbours. -/
def mergeAll (less : α → α → Except ε Bool) (patience : Nat) : List (Run α) → Sorted ε α
  | first :: second :: third :: rest =>
    if third.items.length < first.items.length then
      let merged := mergeRuns less patience third.items second.items
      let runs := first :: ⟨merged.items, third.power⟩ :: rest
      match merged.fault with
      | some fault => ⟨Pending.items ⟨runs, patience⟩, some fault⟩
      | none => mergeAll less merged.patience runs
    else
      let merged := mergeRuns less patience second.items first.items
      let runs := ⟨merged.items, second.power⟩ :: third :: rest
      match merged.fault with
      | some fault => ⟨Pending.items ⟨runs, patience⟩, some fault⟩
      | none => mergeAll less merged.patience runs
  | [first, second] =>
    let merged := mergeRuns less patience second.items first.items
    ⟨merged.items, merged.fault⟩
  | runs => ⟨Pending.items ⟨runs, patience⟩, none⟩
termination_by runs => runs.length

/-- The next run, extended to the target, with the rest; a fault leaves all items. -/
def nextRun (less : α → α → Except ε Bool) (target : Nat) (items : List α) :
    Sorted ε α × List α :=
  match splitRun less items with
  | .error fault => (⟨items, some fault⟩, [])
  | .ok (run, rest) =>
    let more := target - run.length
    (insertAll less run (rest.take more), rest.drop more)

/-- Sorts the items that are still to come, behind the runs that are pending. The number of runs to come
is at most the first argument. -/
def sortFrom (less : α → α → Except ε Bool) (size target : Nat) :
    Nat → Pending α → List α → Sorted ε α
  | 0, pending, items => ⟨pending.items ++ items, none⟩
  | fuel + 1, pending, items =>
    if items.isEmpty then mergeAll less pending.patience pending.runs
    else
      let (run, rest) := nextRun less target items
      match run.fault with
      | some fault => ⟨pending.items ++ run.items ++ rest, some fault⟩
      | none =>
        let (prepared, fault) := prepare less size run.items.length pending
        match fault with
        | some fault => ⟨prepared.items ++ run.items ++ rest, some fault⟩
        | none =>
          sortFrom less size target fuel
            { prepared with runs := ⟨run.items, 0⟩ :: prepared.runs } rest

/-- Sorts a list in rising order. -/
def sort (less : α → α → Except ε Bool) (items : List α) : Sorted ε α :=
  sortFrom less items.length (runTarget items.length false) (items.length + 1)
    ⟨[], firstPatience⟩ items

end Workgraph.Sorting
