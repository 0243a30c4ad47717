import Workgraph.Value.Arithmetic
import Workgraph.Value.Equality

/-!
# Numbers in values

Equality and order of values that are numbers. Integers and truth values are compared as integers; in
general numbers are compared by their readings, and turning a comparison round turns its answer round.
-/

namespace Workgraph

namespace Reading

theorem signed_natAbs (n : Int) : signed (n < 0) n.natAbs = n := by
  unfold signed
  split <;> rename_i h
  · have hneg : n < 0 := of_decide_eq_true h
    omega
  · have hpos : ¬n < 0 := fun hneg => h (decide_eq_true hneg)
    omega

private theorem compareScaled_swap (a p b q : Int) :
    (compareScaled a p b q).swap = compareScaled b q a p := by
  unfold compareScaled
  exact Int.compare_swap _ _

private theorem compareScaled_same_exponent (a b : Int) (p : Int) :
    compareScaled a p b p = compare a b := by
  unfold compareScaled
  have hpow : Int.pow 2 (p - p).toNat = 1 := by
    rw [Int.sub_self]
    rfl
  rw [hpow, Int.mul_one, Int.mul_one]

private theorem pow_two_pos (n : Nat) : 0 < Int.pow 2 n := Int.pow_pos (by decide)

private theorem compareScaled_lt_of_le {a p m n q : Int} (h : compareScaled a p m q = .lt)
    (hle : m ≤ n) : compareScaled a p n q = .lt := by
  unfold compareScaled at h ⊢
  rw [Int.compare_eq_lt] at h ⊢
  have hmul : m * Int.pow 2 (q - p).toNat ≤ n * Int.pow 2 (q - p).toNat :=
    Int.mul_le_mul_of_nonneg_right hle (Int.le_of_lt (pow_two_pos _))
  omega

theorem compare?_swap (a b : Reading) : b.compare? a = (a.compare? b).map Ordering.swap := by
  cases a with
  | nan => cases b <;> rfl
  | infinite s =>
      cases b with
      | nan => rfl
      | infinite t => cases s <;> cases t <;> rfl
      | finite t n q => cases s <;> rfl
  | finite s m p =>
      cases b with
      | nan => rfl
      | infinite t => cases t <;> rfl
      | finite t n q =>
          simp only [compare?, Option.map_some, compareScaled_swap]

@[simp]
theorem nan_compare? (a : Reading) : nan.compare? a = none := rfl

@[simp]
theorem compare?_nan (a : Reading) : a.compare? .nan = none := by
  cases a <;> rfl

theorem compare?_isSome {a b : Reading} (ha : a ≠ .nan) (hb : b ≠ .nan) :
    (a.compare? b).isSome := by
  cases a <;> cases b <;> first | rfl | contradiction

end Reading

namespace Number

theorem compare?_int (m n : Int) : (Number.int m).compare? (.int n) = some (compare m n) := by
  unfold compare? reading Reading.compare?
  simp only [Reading.signed_natAbs, Reading.compareScaled_same_exponent]

theorem compare?_swap (a b : Number) : b.compare? a = (a.compare? b).map Ordering.swap :=
  a.reading.compare?_swap b.reading

theorem compare?_int_lt_of_le {a : Number} {m n : Int} (h : a.compare? (.int m) = some .lt)
    (hle : m ≤ n) : a.compare? (.int n) = some .lt := by
  unfold compare? at h ⊢
  generalize a.reading = r at h ⊢
  cases r with
  | nan => cases h
  | infinite s => exact h
  | finite s k p =>
      simp only [reading, Reading.compare?, Reading.signed_natAbs, Option.some_inj] at h ⊢
      exact Reading.compareScaled_lt_of_le h hle

end Number

namespace Value

variable {v w : Value} {a b : Number} {m n : Int}

theorem number?_of_whole? (h : v.whole? = some n) : v.number? = some (.int n) := by
  cases v <;> simp_all [whole?, number?]

theorem same_of_number? (hv : v.number? = some a) (hw : w.number? = some b) :
    v.same w = sameNumber a b := by
  cases v <;> simp_all [number?, same, sameAsNumber]

theorem order_of_number? (hv : v.number? = some a) (hw : w.number? = some b) :
    order v w = .ok (a.compare? b) := by
  cases v <;> simp_all [number?, order, orderNumber]

private theorem sameNumber_int (m n : Int) : sameNumber (.int m) (.int n) = decide (m = n) := by
  rw [sameNumber, Number.compare?_int, Bool.eq_iff_iff]
  simp

theorem same_of_whole? (hv : v.whole? = some m) (hw : w.whole? = some n) :
    v.same w = decide (m = n) := by
  rw [same_of_number? (number?_of_whole? hv) (number?_of_whole? hw), sameNumber_int]

theorem less_of_number? (hv : v.number? = some a) (hw : w.number? = some b) :
    v.less w = .ok (a.compare? b == some .lt) := by
  simp only [less, order_of_number? hv hw, bind, Except.bind, pure, Except.pure]

theorem atMost_of_number? (hv : v.number? = some a) (hw : w.number? = some b) :
    v.atMost w = .ok (a.compare? b == some .lt || a.compare? b == some .eq) := by
  simp only [atMost, order_of_number? hv hw, bind, Except.bind, pure, Except.pure]

theorem exists_number?_of_atMost (hv : v.number? = some a) {c : Bool} (h : v.atMost w = .ok c) :
    ∃ b, w.number? = some b := by
  cases hw : w.number? with
  | some b => exact ⟨b, rfl⟩
  | none =>
      have horder : order v w = .error .wrongKind := by
        cases v <;> simp_all [number?, order, orderNumber]
      simp [atMost, horder, bind, Except.bind] at h

theorem less_of_whole? (hv : v.whole? = some m) (hw : w.whole? = some n) :
    v.less w = .ok (decide (m < n)) := by
  rw [less_of_number? (number?_of_whole? hv) (number?_of_whole? hw), Number.compare?_int]
  congr 1
  rw [Bool.eq_iff_iff]
  simp [Int.compare_eq_lt]

theorem atMost_of_whole? (hv : v.whole? = some m) (hw : w.whole? = some n) :
    v.atMost w = .ok (decide (m ≤ n)) := by
  rw [atMost_of_number? (number?_of_whole? hv) (number?_of_whole? hw), Number.compare?_int]
  congr 1
  rw [Bool.eq_iff_iff]
  simp [Int.compare_eq_lt, Int.le_iff_lt_or_eq]

theorem same_int (h : v.whole? = some m) (n : Int) : v.same (.int n) = decide (m = n) :=
  same_of_whole? h rfl

theorem atMost_int (h : v.whole? = some m) (n : Int) : v.atMost (.int n) = .ok (decide (m ≤ n)) :=
  atMost_of_whole? h rfl

theorem greater_int (h : v.whole? = some m) (n : Int) :
    v.greater (.int n) = .ok (decide (n < m)) :=
  less_of_whole? rfl h

theorem atLeast_int (h : v.whole? = some m) (n : Int) :
    v.atLeast (.int n) = .ok (decide (n ≤ m)) :=
  atMost_of_whole? rfl h

theorem add_of_whole? (hv : v.whole? = some m) (hw : w.whole? = some n) :
    v.add w = .ok (.int (m + n)) := by
  cases v <;> cases hv <;> cases w <;> cases hw <;> rfl

theorem product_of_whole? (hv : v.whole? = some m) (hw : w.whole? = some n) :
    v.product w = .ok (.int (m * n)) := by
  cases v <;> cases hv <;> cases w <;> cases hw <;> rfl

theorem fieldOr_of_whole? {fields : Fields} {key : String} {n? : Option Int} {d : Int}
    (default : Value) (h : (Fields.get? key fields).map whole? = n?.map some)
    (hdefault : default.whole? = some d) :
    ∃ v, (Value.record fields).fieldOr key default = .ok v ∧ v.whole? = some (n?.getD d) := by
  have hfield : (Value.record fields).fieldOr key default =
      .ok ((Fields.get? key fields).getD default) := rfl
  refine ⟨_, hfield, ?_⟩
  cases hget : Fields.get? key fields with
  | none =>
      rw [hget] at h
      cases n? with
      | none => exact hdefault
      | some n => cases h
  | some v =>
      rw [hget] at h
      cases n? with
      | none => cases h
      | some n => exact Option.some.inj h

end Value

end Workgraph
