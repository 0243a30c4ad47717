import Mathlib
import Workgraph.Number.Basic

/-!
# Fractions with a double near them

A fraction is rounded in units of the last place that its nearest double has. The result is finite exactly
below the point half way from the largest double to the power of two that would follow it. So integers
below this bound can be turned into doubles, and so can the quotients of integers by larger ones.
-/

namespace Workgraph

namespace Binary64

theorem inUnits_ratio (num : Nat) {den : Nat} (hden : 0 < den) (unit : Int) :
    ((inUnits num den unit).1 : ℚ) / (inUnits num den unit).2 = num / den / 2 ^ unit := by
  have hpos : (den : ℚ) ≠ 0 := by
    exact_mod_cast hden.ne'
  change ((num * 2 ^ (-unit).toNat : ℕ) : ℚ) / ((den * 2 ^ unit.toNat : ℕ) : ℚ) = _
  push_cast
  obtain ⟨n, rfl | rfl⟩ := unit.eq_nat_or_neg
  · simp [div_div]
  · simp [div_mul_eq_mul_div]

theorem log2_bounds {n : Nat} (hn : 0 < n) :
    (2 : ℚ) ^ (n.log2 : ℤ) ≤ n ∧ (n : ℚ) < 2 ^ ((n.log2 : ℤ) + 1) := by
  constructor
  · exact_mod_cast Nat.log2_self_le hn.ne'
  · exact_mod_cast Nat.lt_log2_self (n := n)

private theorem ratio_bounds {num den : Nat} (hnum : 0 < num) (hden : 0 < den) :
    (2 : ℚ) ^ ((num.log2 : ℤ) - den.log2 - 1) < num / den ∧
      (num : ℚ) / den < 2 ^ ((num.log2 : ℤ) - den.log2 + 1) := by
  have hpos : (0 : ℚ) < den := by exact_mod_cast hden
  obtain ⟨hnumLow, hnumHigh⟩ := log2_bounds hnum
  obtain ⟨hdenLow, hdenHigh⟩ := log2_bounds hden
  constructor
  · rw [lt_div_iff₀ hpos]
    calc (2 : ℚ) ^ ((num.log2 : ℤ) - den.log2 - 1) * den
        < 2 ^ ((num.log2 : ℤ) - den.log2 - 1) * 2 ^ ((den.log2 : ℤ) + 1) := by gcongr
      _ = 2 ^ (num.log2 : ℤ) := by
          rw [← zpow_add₀ two_ne_zero]
          congr 1
          ring
      _ ≤ num := hnumLow
  · rw [div_lt_iff₀ hpos]
    calc (num : ℚ) < 2 ^ ((num.log2 : ℤ) + 1) := hnumHigh
      _ = 2 ^ ((num.log2 : ℤ) - den.log2 + 1) * 2 ^ (den.log2 : ℤ) := by
          rw [← zpow_add₀ two_ne_zero]
          congr 1
          ring
      _ ≤ 2 ^ ((num.log2 : ℤ) - den.log2 + 1) * den := by gcongr

theorem inUnits_div_lt_iff (num : Nat) {den : Nat} (hden : 0 < den) (unit : Int) (n : Nat) :
    (inUnits num den unit).1 / (inUnits num den unit).2 < n ↔ (num : ℚ) / den < n * 2 ^ unit := by
  have hden' : 0 < (inUnits num den unit).2 := Nat.mul_pos hden (Nat.pow_pos (by decide))
  have hratio := inUnits_ratio num hden unit
  generalize inUnits num den unit = units at hden' hratio
  have hpos : (0 : ℚ) < units.2 := by exact_mod_cast hden'
  rw [Nat.div_lt_iff_lt_mul hden', ← div_lt_iff₀ (by positivity), ← hratio, div_lt_iff₀ hpos]
  exact_mod_cast Iff.rfl

private theorem lastPlace_bounds {num den : Nat} (hnum : 0 < num) (hden : 0 < den) :
    -1074 ≤ lastPlace num den ∧ (num : ℚ) / den < 2 ^ 53 * 2 ^ lastPlace num den ∧
      (-1074 < lastPlace num den → 2 ^ 52 * 2 ^ lastPlace num den ≤ (num : ℚ) / den) := by
  obtain ⟨hlow, hhigh⟩ := ratio_bounds hnum hden
  generalize hlog : (num.log2 : Int) - den.log2 = log at hlow hhigh
  have hfits : (inUnits num den (max (log - 53) (-1074))).1 /
      (inUnits num den (max (log - 53) (-1074))).2 < Nat.pow 2 53 ↔
      (num : ℚ) / den < 2 ^ 53 * 2 ^ max (log - 53) (-1074) := by
    rw [inUnits_div_lt_iff num hden]
    norm_num
  simp only [lastPlace, hlog]
  split <;> rename_i hplace <;> rw [hfits] at hplace
  · refine ⟨le_max_right _ _, hplace, ?_⟩
    intro hnormal
    have hmax : max (log - 53) (-1074) = log - 53 := by omega
    rw [hmax]
    calc (2 : ℚ) ^ 52 * 2 ^ (log - 53) = 2 ^ (52 + (log - 53)) := by
          rw [zpow_add₀ two_ne_zero]
          norm_cast
      _ = 2 ^ (log - 1) := by
          congr 1
          ring
      _ ≤ num / den := hlow.le
  · have hdouble : (2 : ℚ) ^ (max (log - 53) (-1074) + 1) = 2 ^ max (log - 53) (-1074) * 2 :=
      zpow_add_one₀ two_ne_zero _
    refine ⟨by omega, ?_, ?_⟩
    · calc (num : ℚ) / den < 2 ^ (log + 1) := hhigh
        _ ≤ 2 ^ (53 + (max (log - 53) (-1074) + 1)) :=
            zpow_le_zpow_right₀ one_le_two (by omega)
        _ = 2 ^ 53 * 2 ^ (max (log - 53) (-1074) + 1) := by
            rw [zpow_add₀ two_ne_zero]
            norm_cast
    · intro _
      rw [hdouble]
      linarith

private theorem divideRounding_lt_iff {num den n : Nat} (hden : 0 < den) (hn : 0 < n) (heven : n % 2 = 0) :
    divideRounding num den < n ↔ 2 * num < (2 * n - 1) * den := by
  have hdivide : den * (num / den) + num % den = num := Nat.div_add_mod num den
  have hrest : num % den < den := Nat.mod_lt num hden
  unfold divideRounding
  generalize num / den = floor at *
  generalize num % den = rest at *
  dsimp only
  subst hdivide
  obtain hbelow | rfl | habove : floor + 1 < n ∨ floor + 1 = n ∨ n ≤ floor := by omega
  · have hscaled : den * (floor + 2) ≤ den * n := Nat.mul_le_mul_left den hbelow
    have hlt : 2 * (den * floor + rest) < (2 * n - 1) * den := by
      rw [Nat.sub_mul, Nat.mul_assoc, Nat.mul_comm n]
      rw [Nat.mul_add] at hscaled
      omega
    refine iff_of_true ?_ hlt
    split
    · omega
    · split <;> omega
  · have hodd : floor % 2 = 1 := by omega
    have hscaled : (2 * (floor + 1) - 1) * den = 2 * (den * floor) + den := by
      rw [Nat.sub_mul, Nat.mul_assoc, Nat.mul_comm _ den, Nat.mul_add]
      omega
    rw [hscaled]
    split
    · omega
    · split <;> omega
  · have hscaled : den * n ≤ den * floor := Nat.mul_le_mul_left den habove
    have hge : ¬2 * (den * floor + rest) < (2 * n - 1) * den := by
      rw [Nat.sub_mul, Nat.mul_assoc, Nat.mul_comm n]
      omega
    refine iff_of_false ?_ hge
    split
    · omega
    · split <;> omega

private theorem divideRounding_lt_two_pow_iff {num den : Nat} (hden : 0 < den) :
    divideRounding num den < 2 ^ 53 ↔ (num : ℚ) / den < (2 ^ 54 - 1) / 2 := by
  have hpos : (0 : ℚ) < den := by exact_mod_cast hden
  have hcast : ((2 * 2 ^ 53 - 1 : ℕ) : ℚ) = 2 ^ 54 - 1 := by norm_num
  rw [divideRounding_lt_iff hden (by decide) (by decide), div_lt_iff₀ hpos, div_mul_eq_mul_div,
    lt_div_iff₀' two_pos, ← hcast]
  exact_mod_cast Iff.rfl

private theorem div_le_divideRounding (num den : Nat) : num / den ≤ divideRounding num den := by
  unfold divideRounding
  dsimp only
  split
  · exact le_rfl
  · split <;> omega

private theorem divideRounding_le (num den : Nat) : divideRounding num den ≤ num / den + 1 := by
  unfold divideRounding
  dsimp only
  split
  · omega
  · split <;> omega

/-- The least number that is rounded to an infinity: `2 ^ 1024 - 2 ^ 970`, half way between the largest
double and the power of two that would come next. -/
def overflowBound : Nat := (Nat.pow 2 54 - 1) * Nat.pow 2 970

private theorem cast_overflowBound : (overflowBound : ℚ) = (2 ^ 54 - 1) * 2 ^ (970 : ℤ) := by
  have hcast (n : Nat) : ((Nat.pow 2 n : ℕ) : ℚ) = 2 ^ (n : ℤ) := by
    change ((2 ^ n : ℕ) : ℚ) = _
    rw [Nat.cast_pow, Nat.cast_two, zpow_natCast]
  simp only [overflowBound, Nat.cast_mul, hcast]
  norm_num

private theorem nearestBits_lt_infinityBits_iff (num : Nat) {den : Nat} (hden : 0 < den) :
    nearestBits num den < infinityBits ↔ num < overflowBound * den := by
  have hposDen : (0 : ℚ) < den := by exact_mod_cast hden
  have hbound : num < overflowBound * den ↔ (num : ℚ) / den < (2 ^ 54 - 1) * 2 ^ (970 : ℤ) := by
    rw [div_lt_iff₀ hposDen, ← cast_overflowBound]
    exact_mod_cast Iff.rfl
  rw [hbound]
  obtain rfl | hnum := Nat.eq_zero_or_pos num
  · have hpos : (0 : ℚ) < (2 ^ 54 - 1) * 2 ^ (970 : ℤ) := by positivity
    simpa [nearestBits] using iff_of_true (by decide : 0 < infinityBits) hpos
  obtain ⟨hplace, hhigh, hnormal⟩ := lastPlace_bounds hnum hden
  have hunits := inUnits_div_lt_iff num hden (lastPlace num den)
  have hratio := inUnits_ratio num hden (lastPlace num den)
  have hpos : 0 < (inUnits num den (lastPlace num den)).2 :=
    Nat.mul_pos hden (Nat.pow_pos (by decide))
  have hbits : nearestBits num den = (lastPlace num den + 1074).toNat * 2 ^ 52 +
      divideRounding (inUnits num den (lastPlace num den)).1
        (inUnits num den (lastPlace num den)).2 := by
    rw [nearestBits, if_neg hnum.ne']
    rfl
  rw [hbits]
  change _ < 2047 * 2 ^ 52 ↔ _
  generalize lastPlace num den = unit at *
  generalize inUnits num den unit = units at *
  have hfloor := div_le_divideRounding units.1 units.2
  have hceiling := divideRounding_le units.1 units.2
  have hquotient : units.1 / units.2 < 2 ^ 53 := by
    rw [hunits]
    exact_mod_cast hhigh
  -- The largest double is the one with unit 971 and all 53 bits set, so only there does rounding decide.
  obtain hsmall | rfl | hlarge : unit ≤ 970 ∨ unit = 971 ∨ 972 ≤ unit := by omega
  · refine iff_of_true (by omega) ?_
    calc (num : ℚ) / den < 2 ^ 53 * 2 ^ unit := hhigh
      _ ≤ 2 ^ 53 * 2 ^ (970 : ℤ) := by
          gcongr
          norm_num
      _ < (2 ^ 54 - 1) * 2 ^ (970 : ℤ) := by
          gcongr
          norm_num
  · have hpower : (2 : ℚ) ^ (971 : ℤ) = 2 * 2 ^ (970 : ℤ) := zpow_one_add₀ two_ne_zero 970
    calc ((971 : ℤ) + 1074).toNat * 2 ^ 52 + divideRounding units.1 units.2 < 2047 * 2 ^ 52
        ↔ divideRounding units.1 units.2 < 2 ^ 53 := by omega
      _ ↔ (units.1 : ℚ) / units.2 < (2 ^ 54 - 1) / 2 := divideRounding_lt_two_pow_iff hpos
      _ ↔ (num : ℚ) / den < (2 ^ 54 - 1) * 2 ^ (970 : ℤ) := by
          rw [hratio, hpower, div_lt_iff₀ (by positivity), div_mul_eq_mul_div, mul_left_comm,
            mul_div_cancel_left₀ _ two_ne_zero]
  · have hge := hnormal (by omega)
    have hquotient' : 2 ^ 52 ≤ units.1 / units.2 := by
      rw [← Nat.not_lt, hunits, not_lt]
      exact_mod_cast hge
    refine iff_of_false (by omega) (not_lt.2 ?_)
    calc ((2 : ℚ) ^ 54 - 1) * 2 ^ (970 : ℤ) ≤ 2 ^ (54 : ℤ) * 2 ^ (970 : ℤ) := by
          gcongr
          norm_num
      _ = 2 ^ (52 : ℤ) * 2 ^ (972 : ℤ) := by
          rw [← zpow_add₀ two_ne_zero, ← zpow_add₀ two_ne_zero]
          norm_num
      _ ≤ 2 ^ (52 : ℤ) * 2 ^ unit := by
          gcongr
          norm_num
      _ ≤ num / den := by exact_mod_cast hge

theorem isSome_ofRatio?_iff (negative : Bool) (num : Nat) {den : Nat} (hden : 0 < den) :
    (ofRatio? negative num den).isSome ↔ num < overflowBound * den := by
  rw [← nearestBits_lt_infinityBits_iff num hden]
  unfold ofRatio?
  dsimp only
  split <;> simp_all

end Binary64

namespace Number

open Binary64

theorem exists_toFloat_int_iff (n : Int) :
    (∃ x, (Number.int n).toFloat = .ok x) ↔ n.natAbs < overflowBound := by
  have hsome := isSome_ofRatio?_iff (n < 0) n.natAbs Nat.one_pos
  rw [Nat.mul_one] at hsome
  rw [← hsome, toFloat, ofInt?]
  cases ofRatio? (n < 0) n.natAbs 1 <;> simp

theorem exists_divide_of_le {m n : Int} (hm : 0 ≤ m) (hn : 0 < n) (hle : m ≤ n) :
    ∃ x, (Number.int m).divide (.int n) = .ok x := by
  have hden : 0 < n.natAbs := by omega
  have hnum : m.natAbs < overflowBound * n.natAbs := by
    have hbound : 1 < overflowBound := by decide +kernel
    calc m.natAbs ≤ n.natAbs := by omega
      _ < overflowBound * n.natAbs := lt_mul_left hden hbound
  obtain ⟨x, hx⟩ := Option.isSome_iff_exists.1
    ((isSome_ofRatio?_iff (decide (m < 0) != decide (n < 0)) m.natAbs hden).2 hnum)
  refine ⟨x, ?_⟩
  simp only [divide, if_neg hn.ne', hx]

end Number

end Workgraph
