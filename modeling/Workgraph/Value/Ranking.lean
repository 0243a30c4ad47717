import Workgraph.Sorting.Runs
import Workgraph.Value.Equality

/-!
# Ranking

Sorting by a key, largest first, entries with equal keys in their old order. Keys that are all numbers,
or all texts, have an order that fixes the result. For other keys the result depends on which pairs
are compared, and the comparison of a pair may fail: there the entries are sorted by runs, and a
failure leaves them as far sorted as they are.
-/

namespace Workgraph.Ranking

/-- An entry with its key. -/
structure Keyed (α : Type) where
  key : Value
  entry : α

/-- Whether the value is a number and not one of the doubles that stand for none. -/
def isProperNumber (v : Value) : Bool :=
  match v.number? with
  | some a => (a.compare? a).isSome
  | none => false

def isText : Value → Bool
  | .text _ => true
  | _ => false

/-- Whether the order of the keys is total. -/
def isOrdered (keys : List Value) : Bool := keys.all isProperNumber || keys.all isText

/-- Whether the order puts the second value after the first or lets them be equal; only for values with a
total order. -/
def notAfter (v w : Value) : Bool :=
  match v.order w with
  | .ok (some .gt) => false
  | _ => true

/-- The entries by decreasing keys, those with equal keys in their old order. -/
def sortOrdered (entries : List (Keyed α)) : List (Keyed α) :=
  entries.mergeSort fun a b => notAfter b.key a.key

/-- Sorts by decreasing keys; a fault stands beside the order that it leaves. -/
def sort (entries : List (Keyed α)) : List (Keyed α) × Option Fault :=
  if isOrdered (entries.map Keyed.key) then (sortOrdered entries, none)
  else
    let sorted := Sorting.sort (fun a b => a.key.less b.key) entries.reverse
    (sorted.items.reverse, sorted.fault)

end Workgraph.Ranking
