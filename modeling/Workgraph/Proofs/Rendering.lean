import Workgraph.Value.Render

/-!
# Values that can be written

A value can be written exactly if all integers in it are below a power of ten. The power itself is the least that
is too long.
-/

namespace Workgraph.Value

private theorem isWritable_int_iff {n : Int} :
    (Value.int n).isWritable = true ↔ n.natAbs < Nat.pow 10 Fault.digitLimit := by
  have hpositive : 0 < Fault.digitLimit := by decide
  rw [isWritable, decide_eq_true_iff]
  generalize Fault.digitLimit = limit at hpositive ⊢
  exact Nat.length_toDigits_le_iff (by decide) hpositive

theorem isWritable_list_iff {items : List Value} :
    (Value.list items).isWritable = true ↔ ∀ v ∈ items, v.isWritable = true := by
  rw [isWritable]
  induction items with
  | nil => simp [areWritable]
  | cons v rest ih => rw [areWritable, Bool.and_eq_true, ih, List.forall_mem_cons]

theorem isWritable_record_iff {fields : Fields} :
    (Value.record fields).isWritable = true ↔ ∀ entry ∈ fields, entry.2.isWritable = true := by
  rw [isWritable]
  induction fields with
  | nil => simp [haveWritable]
  | cons entry rest ih => rw [haveWritable, Bool.and_eq_true, ih, List.forall_mem_cons]

theorem render_of_isWritable {v : Value} (h : v.isWritable = true) : v.render = .ok v.display :=
  if_pos h

theorem render_of_not_isWritable {v : Value} (h : v.isWritable = false) :
    v.render = .error (.tooManyDigits none) :=
  if_neg (Bool.eq_false_iff.1 h)

/-- The least natural number that is too long to be written. -/
@[irreducible]
def leastUnwritable : Nat := Nat.pow 10 Fault.digitLimit

theorem leastUnwritable_pos : 0 < leastUnwritable := by
  unfold leastUnwritable
  generalize Fault.digitLimit = limit
  exact Nat.pow_pos (by decide)

theorem isWritable_leastUnwritable : (Value.int leastUnwritable).isWritable = false := by
  rw [Bool.eq_false_iff, ne_eq, isWritable_int_iff, Int.natAbs_natCast]
  unfold leastUnwritable
  generalize Fault.digitLimit = limit
  exact Nat.lt_irrefl _

end Workgraph.Value
