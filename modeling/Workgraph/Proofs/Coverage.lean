import Mathlib
import Workgraph.Proofs.Allotment
import Workgraph.Proofs.Numbers
import Workgraph.Proofs.Products

/-!
# Shares that come to the whole

Each share is cut to whole points on its own, so shares that add up to one may come to less than one hundred
points. Fewer points are lost than there are shares. A user whose hash has one of the lost points gets
the control, whether or not the experiment has one.
-/

namespace Workgraph

namespace Number

open Binary64

private theorem truncate_of_isExactly {x : Float} {q : ℚ} (h : (read x).IsExactly q) (hq : 0 ≤ q) :
    truncate (.float x) = .ok (⌊q⌋₊ : Int) := by
  obtain ⟨negative, m, e, hread, rfl⟩ := h
  cases negative with
  | false =>
      have hexponent : e = e.toNat - (-e).toNat := by omega
      have hscale : (m * 2 ^ e : ℚ) = (m * 2 ^ e.toNat : Nat) / (2 ^ (-e).toNat : Nat) := by
        nth_rewrite 1 [hexponent]
        rw [zpow_sub₀ two_ne_zero, zpow_natCast, zpow_natCast, ← mul_div_assoc]
        push_cast
        rfl
      have hfloor : ⌊(m * 2 ^ e : ℚ)⌋₊ = m * 2 ^ e.toNat / 2 ^ (-e).toNat := by
        rw [hscale, Nat.floor_div_eq_div]
      simp only [truncate, hread, Reading.signed, Bool.false_eq_true, if_false, Int.cast_natCast, hfloor]
      rfl
  | true =>
      have hzero : m = 0 := by
        have hpos : (0 : ℚ) < 2 ^ e := by positivity
        have hle : (m : ℚ) ≤ 0 := by
          simp only [Reading.signed, if_true] at hq
          push_cast at hq
          nlinarith
        exact_mod_cast le_antisymm hle (Nat.cast_nonneg m)
      simp [truncate, hread, hzero, Reading.signed]

private theorem cast_of_isExactly_int {n : Int} {q : ℚ} (h : (Number.int n).reading.IsExactly q) : q = n := by
  obtain ⟨negative, m, e, hread, rfl⟩ := h
  cases hread
  rw [Reading.signed_natAbs, zpow_zero, mul_one]

/-- A share is cut to points by less than one point. -/
theorem exists_truncate_mul {a : Number} {q : ℚ} (h : a.reading.IsExactly q) (hq : 0 ≤ q) (hone : q ≤ 1) :
    ∃ product, a.mul (.int 100) = .ok product ∧
      ∃ points : Nat, product.truncate = .ok (points : Int) ∧ 100 * q < points + 1 := by
  cases a with
  | int n =>
      obtain rfl := cast_of_isExactly_int h
      obtain ⟨k, rfl⟩ := Int.eq_ofNat_of_zero_le (show 0 ≤ n by exact_mod_cast hq)
      refine ⟨.int (k * 100), rfl, k * 100, by rw [truncate]; push_cast; rfl, ?_⟩
      push_cast
      linarith
  | float x =>
      have hhundred : (read 100.0).IsExactly 100 :=
        ⟨false, 100 * 2 ^ 46, -46, rfl, by norm_num [Reading.signed]⟩
      obtain ⟨p, hp, hnonneg, hreach⟩ :=
        exists_isExactly_mul h hhundred hq (by norm_num) (by norm_num; linarith)
      refine ⟨.float (x * 100.0), rfl, ⌊p⌋₊, truncate_of_isExactly hp hnonneg, ?_⟩
      -- the points of the exact product are not lost by the rounding
      have hpoints : ⌊100 * q⌋₊ ≤ ⌊p⌋₊ := by
        apply Nat.le_floor
        apply hreach
        rw [mul_comm q]
        exact Nat.floor_le (by linarith)
      calc 100 * q < ⌊100 * q⌋₊ + 1 := Nat.lt_floor_add_one _
        _ ≤ ⌊p⌋₊ + 1 := by gcongr

end Number

namespace Value

variable {v : Value} {a product : Number}

private theorem toInt_ofNumber (a : Number) : (ofNumber a).toInt = a.truncate := by
  cases a <;> rfl

private theorem mul_int_of_number? (hv : v.number? = some a) {n : Int} (h : a.mul (.int n) = .ok product) :
    v.mul (.int n) = .ok (ofNumber product) := by
  cases v with
  | bool b | int m | float x =>
      cases hv
      simp only [mul, number, number?, bind, Except.bind, h, pure, Except.pure]
  | null | text | list | record => cases hv

end Value

namespace Experiment

/-- The shares of an allocation are these fractions. -/
def HasShares (allocation : Fields) (shares : List ℚ) : Prop :=
  List.Forall₂ (fun entry share => ∃ a, entry.2.number? = some a ∧ a.reading.IsExactly share)
    allocation shares

private theorem exists_percent {share : Value} {a : Number} {q : ℚ} (ha : share.number? = some a)
    (h : a.reading.IsExactly q) (hq : 0 ≤ q) (hone : q ≤ 1) :
    ∃ points : Nat, percent share = .ok (points : Int) ∧ 100 * q < points + 1 := by
  obtain ⟨product, hproduct, points, htruncate, hpoints⟩ := Number.exists_truncate_mul h hq hone
  refine ⟨points, ?_, hpoints⟩
  simp only [percent, Value.mul_int_of_number? ha hproduct, bind, Except.bind, Value.toInt_ofNumber,
    htruncate]

private theorem exists_isPlan {allocation : Fields} {shares : List ℚ} (h : HasShares allocation shares)
    (hshares : ∀ q ∈ shares, 0 ≤ q ∧ q ≤ 1) :
    ∃ plan, IsPlan allocation plan ∧
      (allocation = [] ∨ 100 * shares.sum < plan.total + allocation.length) := by
  induction h with
  | nil => exact ⟨[], .nil, .inl rfl⟩
  | @cons entry q allocation shares hentry hrest ih =>
      obtain ⟨a, ha, hexact⟩ := hentry
      obtain ⟨hq, hone⟩ := hshares q List.mem_cons_self
      obtain ⟨points, hpercent, hpoints⟩ := exists_percent ha hexact hq hone
      obtain ⟨plan, hplan, hsum⟩ := ih fun r hr => hshares r (List.mem_cons_of_mem _ hr)
      refine ⟨(entry.1, points) :: plan, .cons ⟨rfl, hpercent⟩ hplan, .inr ?_⟩
      rw [List.sum_cons, Plan.total_cons, List.length_cons]
      push_cast
      rcases hsum with rfl | hlt
      · cases hrest
        cases hplan
        simpa using hpoints
      · linarith

theorem IsPlan.inj {allocation : Fields} {first second : Plan} (h : IsPlan allocation first)
    (h' : IsPlan allocation second) : first = second := by
  induction h generalizing second with
  | nil => cases h'; rfl
  | @cons entry share allocation plan hentry _ ih =>
      cases h' with
      | @cons _ other _ rest hother hrest =>
          have hpoints : share.2 = other.2 := by
            have := hentry.2.symm.trans hother.2
            simpa using this
          rw [ih hrest, Prod.ext (hentry.1.symm.trans hother.1) hpoints]

namespace Plan

variable {plan : Plan} {point : Nat}

private theorem pick_mem_names_iff :
    plan.pick point ∈ plan.map Prod.fst ↔ "control" ∈ plan.map Prod.fst ∨ point < plan.total := by
  by_cases hpoint : point < plan.total
  · obtain ⟨i, share, hshare, hblock⟩ := exists_mem_block hpoint
    rw [pick_of_mem_block hshare hblock]
    exact iff_of_true (List.mem_map_of_mem (List.mem_of_getElem? hshare)) (.inr hpoint)
  · rw [pick_of_total_le (Nat.le_of_not_lt hpoint), or_iff_left hpoint]

end Plan

/-- Shares that add up to one lose fewer points than there are shares. Every user gets one of the variants
exactly if the control is one of them or all one hundred points are shared out. -/
theorem assigns_complete_shares_iff {fields tracking allocation : Fields} {user experiment : String}
    {shares : List ℚ} (h : IsUndecided fields user experiment tracking allocation)
    (hshares : HasShares allocation shares) (hnonneg : ∀ q ∈ shares, 0 ≤ q) (hsum : shares.sum = 1)
    (session : Session) :
    ∃ (plan : Plan) (chosen : Int → String), IsPlan allocation plan ∧
      100 < plan.total + allocation.length ∧ (∀ hash, Assigns session fields hash (chosen hash)) ∧
      (∀ hash, chosen hash ∈ allocation.map Prod.fst ↔
        "control" ∈ allocation.map Prod.fst ∨ hash % 100 < plan.total) ∧
      ((∀ hash, chosen hash ∈ allocation.map Prod.fst) ↔
        "control" ∈ allocation.map Prod.fst ∨ 100 ≤ plan.total) := by
  have hbounds (q : ℚ) (hq : q ∈ shares) : 0 ≤ q ∧ q ≤ 1 :=
    ⟨hnonneg q hq, hsum ▸ List.single_le_sum hnonneg q hq⟩
  obtain ⟨plan, hplan, hlost⟩ := exists_isPlan hshares hbounds
  have hchosen (hash : Int) : plan.pick (hash % 100).toNat ∈ allocation.map Prod.fst ↔
      "control" ∈ allocation.map Prod.fst ∨ hash % 100 < plan.total := by
    rw [hplan.names_eq, Plan.pick_mem_names_iff]
    exact or_congr_right (by omega)
  refine ⟨plan, fun hash => plan.pick (hash % 100).toNat, hplan, ?_, assigns_pick h hplan session,
    hchosen, ?_⟩
  · rcases hlost with rfl | hlost
    · cases hshares
      simp at hsum
    · rw [hsum] at hlost
      exact_mod_cast hlost
  · simp only [hchosen]
    constructor
    · intro hall
      exact (hall 99).imp_right (by omega)
    · intro hcovers hash
      exact hcovers.imp_right (by omega)

theorem HasShares.cons_float {allocation : Fields} {shares : List ℚ} (h : HasShares allocation shares)
    (name : String) {x : Float} {m : Nat} {e : Int} (hx : Binary64.read x = .finite false m e) :
    HasShares ((name, .float x) :: allocation) (m * 2 ^ e :: shares) :=
  .cons ⟨.float x, rfl, false, m, e, hx, rfl⟩ h

def roundShares : Fields := [("variant_a", .float 0.4), ("variant_b", .float 0.3), ("variant_c", .float 0.3)]

/-- The doubles for forty, thirty and thirty percent add up to one and lose no point. -/
theorem assigns_round_shares :
    ∃ chosen : Int → String,
      (∀ hash, Assigns { state := .null } (applicant roundShares) hash (chosen hash)) ∧
      ∀ hash, chosen hash ∈ roundShares.map Prod.fst := by
  have hshares : HasShares roundShares
      [(7205759403792794 : Nat) * 2 ^ (-54 : Int), (5404319552844595 : Nat) * 2 ^ (-54 : Int),
        (5404319552844595 : Nat) * 2 ^ (-54 : Int)] :=
    ((HasShares.cons_float .nil _ rfl).cons_float _ rfl).cons_float _ rfl
  have hplan : IsPlan roundShares [("variant_a", 40), ("variant_b", 30), ("variant_c", 30)] :=
    .cons ⟨rfl, rfl⟩ (.cons ⟨rfl, rfl⟩ (.cons ⟨rfl, rfl⟩ .nil))
  obtain ⟨plan, chosen, hpoints, -, hassigns, -, hall⟩ := assigns_complete_shares_iff
    (isUndecided_applicant roundShares) hshares (by norm_num) (by norm_num) { state := .null }
  obtain rfl := hplan.inj hpoints
  exact ⟨chosen, hassigns, hall.2 (.inr (by decide))⟩

def lossyShares : Fields := [("variant_a", .float 0.29), ("variant_b", .float 0.31), ("variant_c", .float 0.4)]

/-- The doubles for twenty-nine, thirty-one and forty percent add up to one as well, but a user is left out. -/
theorem assigns_lossy_shares :
    ∃ shares, HasShares lossyShares shares ∧ (∀ q ∈ shares, 0 ≤ q) ∧ shares.sum = 1 ∧
      Assigns { state := .null } (applicant lossyShares) 99 "control" ∧
      "control" ∉ lossyShares.map Prod.fst := by
  have hshares : HasShares lossyShares
      [(5224175567749775 : Nat) * 2 ^ (-54 : Int), (5584463537939415 : Nat) * 2 ^ (-54 : Int),
        (7205759403792794 : Nat) * 2 ^ (-54 : Int)] :=
    ((HasShares.cons_float .nil _ rfl).cons_float _ rfl).cons_float _ rfl
  have hplan : IsPlan lossyShares [("variant_a", 28), ("variant_b", 31), ("variant_c", 40)] :=
    .cons ⟨rfl, rfl⟩ (.cons ⟨rfl, rfl⟩ (.cons ⟨rfl, rfl⟩ .nil))
  refine ⟨_, hshares, by norm_num, by norm_num, ?_, by decide⟩
  exact assigns_pick (isUndecided_applicant lossyShares) hplan { state := .null } 99

end Experiment

end Workgraph
