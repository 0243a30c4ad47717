import Mathlib
import Workgraph.Proofs.Doubles

/-!
# Products of doubles

A product of doubles is the exact product, rounded in the last place of a double. Where this place is not above
one, the bits up to it hold the integer part, and rounding does not take from them. So the product does
not come out below a natural number that the exact product reaches.
-/

namespace Workgraph

open Float.Model (UnpackedFloat Format)

namespace Reading

/-- The reading stands for this fraction. -/
def IsExactly (r : Reading) (q : ℚ) : Prop :=
  ∃ negative significand exponent, r = .finite negative significand exponent ∧
    q = signed negative significand * 2 ^ exponent

private theorem signed_mul_two_pow (negative : Bool) (m n : Nat) :
    (signed negative (m * 2 ^ n) : ℚ) = signed negative m * 2 ^ n := by
  cases negative <;> simp [signed]

end Reading

namespace Binary64

/-- The significand and the exponent of a double: the significand has all its bits, or the exponent is the least. -/
structure IsCanonical (m : Nat) (e : Int) : Prop where
  lt : m < 2 ^ 53
  le : -1074 ≤ e
  full : 2 ^ 52 ≤ m ∨ e = -1074

private theorem isCanonical_of_read {x : Float} {negative : Bool} {m : Nat} {e : Int}
    (h : read x = .finite negative m e) : IsCanonical m e := by
  have hfraction : x.toBits.toNat % Nat.pow 2 52 < 2 ^ 52 := Nat.mod_lt _ (by decide)
  simp only [read] at h
  split at h
  · split at h <;> cases h
  · split at h
    · cases h
      exact ⟨by omega, le_rfl, .inr rfl⟩
    · cases h
      refine ⟨?_, ?_, .inl ?_⟩
      · change 2 ^ 52 + _ < _
        omega
      · omega
      · change 2 ^ 52 ≤ 2 ^ 52 + _
        omega

theorem ofUnpacked_packComponents (s : UnpackedFloat.Sign) {e : BitVec 11} (he : e ≠ -1#11)
    (m : BitVec 52) :
    Reading.ofUnpacked (UnpackedFloat.unpack .binary64 (UnpackedFloat.packComponents .binary64 s e m)) =
      if e = 0#11 then .finite (Reading.isMinus s) m.toNat (-1074)
      else .finite (Reading.isMinus s) (2 ^ 52 + m.toNat) (e.toNat - 1075) := by
  unfold UnpackedFloat.unpack
  simp only [UnpackedFloat.unpackExponent_packComponents, UnpackedFloat.unpackMantissa_packComponents,
    UnpackedFloat.unpackSign_packComponents, UnpackedFloat.Sign.ofBitVec_toBitVec]
  rw [if_neg he]
  split
  · rename_i hzero
    split
    · rename_i hm
      rw [hm]
      rfl
    · rw [hzero]
      rfl
  · simp only [Reading.ofUnpacked, BitVec.toNat_append]
    congr 1
    exact (Nat.shiftLeft_add_eq_or_of_lt m.isLt 1).symm

private theorem pack_of_isCanonical {m : Nat} {e : Int} (h : IsCanonical m e) (he : e ≤ 971)
    (s : UnpackedFloat.Sign) (hm : 0 < m) :
    UnpackedFloat.pack .binary64 (.finite s m e hm) = UnpackedFloat.packComponents .binary64 s
      (if 2 ^ 52 ≤ m then BitVec.ofNat 11 (e + 1075).toNat else 0#11) (BitVec.ofNat 52 m) := by
  have hlt := h.lt
  have hbiased : (e + Format.binary64.exponentBias + Format.binary64.mantissaBitsWithoutImplicit).toNat =
      (e + 1075).toNat := by
    change (e + 1023 + 52).toNat = _
    omega
  have hsmall : ¬ 2 ^ Format.binary64.exponentBits ≤ (e + 1075).toNat + 1 := by
    change ¬ 2 ^ 11 ≤ _
    omega
  have hlog : m.log2 + 1 = Format.binary64.mantissaBits ↔ 2 ^ 52 ≤ m := by
    rw [← Nat.le_log2 hm.ne']
    have hbits : m.log2 < 53 := (Nat.log2_lt hm.ne').2 hlt
    change m.log2 + 1 = 53 ↔ _
    omega
  simp only [UnpackedFloat.pack, hbiased, if_neg hsmall, hlog]
  split <;> rfl

private theorem ofUnpacked_unpack_pack {m : Nat} {e : Int} (h : IsCanonical m e) (he : e ≤ 971)
    (s : UnpackedFloat.Sign) (hm : 0 < m) :
    Reading.ofUnpacked (Float.Model.pack (.finite s m e hm)).unpack =
      .finite (Reading.isMinus s) m e := by
  have hlt := h.lt
  have hle := h.le
  change Reading.ofUnpacked (UnpackedFloat.unpack .binary64
    (UnpackedFloat.pack .binary64 (.finite s m e hm))) = _
  rw [pack_of_isCanonical h he]
  by_cases hfull : 2 ^ 52 ≤ m
  · have hexponent : (BitVec.ofNat 11 (e + 1075).toNat).toNat = (e + 1075).toNat := by
      rw [BitVec.toNat_ofNat]
      omega
    have hmantissa : 2 ^ 52 + (BitVec.ofNat 52 m).toNat = m := by
      rw [BitVec.toNat_ofNat]
      omega
    rw [if_pos hfull, ofUnpacked_packComponents s, if_neg, hexponent, hmantissa,
      Int.toNat_of_nonneg (by omega), Int.add_sub_cancel]
    · rw [← BitVec.toNat_inj, hexponent, BitVec.toNat_ofNat]
      omega
    · rw [ne_eq, eq_ones_iff, hexponent]
      omega
  · obtain rfl : e = -1074 := h.full.resolve_left hfull
    have hmantissa : (BitVec.ofNat 52 m).toNat = m := by
      rw [BitVec.toNat_ofNat]
      omega
    rw [if_neg hfull, ofUnpacked_packComponents s (by decide), if_pos rfl, hmantissa]

/-- The parts of a double with this significand, which may be zero. -/
def ofParts (s : UnpackedFloat.Sign) (m : Nat) (e : Int) : UnpackedFloat :=
  if h : m = 0 then .zero s else .finite s m e (Nat.pos_of_ne_zero h)

theorem isExactly_zero (s : UnpackedFloat.Sign) :
    (Reading.ofUnpacked (Float.Model.pack (.zero s)).unpack).IsExactly 0 := by
  have hunpack : (Float.Model.pack (.zero s)).unpack = .zero s := UnpackedFloat.unpack_packedZero
  rw [hunpack]
  exact ⟨_, _, _, rfl, by simp [Reading.signed]⟩

private theorem isExactly_ofParts {m : Nat} {e : Int} (h : IsCanonical m e) (he : e ≤ 971)
    (s : UnpackedFloat.Sign) :
    (Reading.ofUnpacked (Float.Model.pack (ofParts s m e)).unpack).IsExactly
      (Reading.signed (Reading.isMinus s) m * 2 ^ e) := by
  rw [ofParts]
  split
  · rename_i hzero
    simpa [hzero, Reading.signed] using isExactly_zero s
  · exact ⟨_, _, _, ofUnpacked_unpack_pack h he s _, rfl⟩

/-- The exponent of the last place of the double nearest to `m * 2 ^ e`. -/
def place (m : Nat) (e : Int) : Int := max (m.log2 + e - 52) (-1074)

/-- The bits of a significand that rounding leaves, with those behind the last place cut off. -/
def kept (m : Nat) (e : Int) : Nat := m / 2 ^ (place m e - e).toNat

section Rounding

variable {m : Nat} {e : Int}

private theorem kept_lt (h : e ≤ place m e) : kept m e < 2 ^ 53 := by
  rw [kept, Nat.div_lt_iff_lt_mul (by positivity), ← Nat.pow_add]
  apply Nat.lt_of_lt_of_le Nat.lt_log2_self
  apply Nat.pow_le_pow_right (by decide)
  rw [place] at h ⊢
  omega

private theorem kept_full (hm : 0 < m) (h : e ≤ place m e) : 2 ^ 52 ≤ kept m e ∨ place m e = -1074 := by
  by_cases hleast : place m e = -1074
  · exact .inr hleast
  · left
    rw [kept, Nat.le_div_iff_mul_le (by positivity), ← Nat.pow_add]
    refine Nat.le_trans (Nat.pow_le_pow_right (by decide) ?_) (Nat.log2_self_le hm.ne')
    rw [place] at hleast h ⊢
    omega

private theorem shiftToTargetExponent_eq (m : Nat) (e : Int) :
    UnpackedFloat.shiftToTargetExponent .binary64 m e .exact =
      (UnpackedFloat.ExtendedMantissa.ofMantissaAndAccuracy m .exact >>> (place m e - e).toNat,
        e + (place m e - e).toNat) := by
  have hplace : Format.binary64.targetExponent (Float.Model.totalExponent m e) = place m e := by
    change max ((m.log2 : Int) + 1 + e - 53) (-1074) = _
    rw [place]
    omega
  rw [UnpackedFloat.shiftToTargetExponent, hplace]
  rfl

theorem mantissa_shiftRight (m : UnpackedFloat.ExtendedMantissa) (n : Nat) :
    (m >>> n).mantissa = m.mantissa / 2 ^ n := by
  induction n with
  | zero => exact (Nat.div_one _).symm
  | succ n ih =>
      change (m >>> n).mantissa / 2 = _
      rw [ih, Nat.div_div_eq_div_mul, Nat.pow_succ]

private theorem roundedMantissa_bounds (m : UnpackedFloat.ExtendedMantissa) :
    m.mantissa ≤ m.roundedMantissa ∧ m.roundedMantissa ≤ m.mantissa + 1 := by
  unfold UnpackedFloat.ExtendedMantissa.roundedMantissa UnpackedFloat.Accuracy.roundToNearestEven
  split <;> omega

/-- A significand that has become too long by a carry is a power of two, and the second shift takes its last bit. -/
theorem isCanonical_kept (hm : m ≤ 2 ^ 53) (he : -1074 ≤ e) (hfull : 2 ^ 52 ≤ m ∨ e = -1074) :
    IsCanonical (kept m e) (e + (place m e - e).toNat) ∧
      kept m e * 2 ^ (place m e - e).toNat = m ∧ (place m e - e).toNat ≤ 1 := by
  rw [kept]
  rcases Nat.lt_or_eq_of_le hm with hlt | rfl
  · have hplace : (place m e - e).toNat = 0 := by
      have hlog : m.log2 < 53 := by
        rcases Nat.eq_zero_or_pos m with rfl | hpos
        · decide
        · exact (Nat.log2_lt hpos.ne').2 hlt
      rw [place]
      omega
    rw [hplace]
    simpa using ⟨hlt, he, hfull⟩
  · have hplace : (place (2 ^ 53) e - e).toNat = 1 := by
      rw [place, Nat.log2_two_pow]
      omega
    rw [hplace]
    exact ⟨⟨by decide, by omega, .inl (by decide)⟩, by decide, by decide⟩

private theorem exists_round_eq (s : UnpackedFloat.Sign) (h : e ≤ place m e) :
    ∃ rounded, kept m e ≤ rounded ∧ rounded ≤ kept m e + 1 ∧
      UnpackedFloat.roundWithAccuracy .binary64 s m e .exact =
        ofParts s (kept rounded (place m e))
          (place m e + (place rounded (place m e) - place m e).toNat) := by
  have hbounds := roundedMantissa_bounds
    (UnpackedFloat.ExtendedMantissa.ofMantissaAndAccuracy m .exact >>> (place m e - e).toNat)
  have hexponent : e + (place m e - e).toNat = place m e := by omega
  rw [mantissa_shiftRight] at hbounds
  refine ⟨_, hbounds.1, hbounds.2, ?_⟩
  unfold UnpackedFloat.roundWithAccuracy
  simp only [shiftToTargetExponent_eq, mantissa_shiftRight, hexponent]
  rfl

private theorem exists_isExactly_round (s : UnpackedFloat.Sign) (hm : 0 < m) (h : e ≤ place m e)
    (hsmall : place m e ≤ 0) :
    ∃ rounded, kept m e ≤ rounded ∧
      (Reading.ofUnpacked (Float.Model.pack
        (UnpackedFloat.roundWithAccuracy .binary64 s m e .exact)).unpack).IsExactly
          (Reading.signed (Reading.isMinus s) rounded * 2 ^ place m e) := by
  obtain ⟨rounded, hlow, hhigh, hround⟩ := exists_round_eq s h
  have hlt := kept_lt h
  have hfull : 2 ^ 52 ≤ rounded ∨ place m e = -1074 := (kept_full hm h).imp_left (·.trans hlow)
  have hleast : -1074 ≤ place m e := le_max_right _ _
  obtain ⟨hcanonical, hvalue, hcarry⟩ :=
    isCanonical_kept (show rounded ≤ 2 ^ 53 by omega) hleast hfull
  have hexact := isExactly_ofParts hcanonical (show _ ≤ (971 : Int) by omega) s
  rw [zpow_add₀ two_ne_zero, zpow_natCast, mul_comm ((2 : ℚ) ^ place m e), ← mul_assoc,
    ← Reading.signed_mul_two_pow, hvalue] at hexact
  exact ⟨rounded, hlow, hround ▸ hexact⟩

private theorem le_kept_of_le {n : Nat} (h : e ≤ place m e) (hsmall : place m e ≤ 0)
    (hn : (n : ℚ) ≤ m * 2 ^ e) : (n : ℚ) ≤ kept m e * 2 ^ place m e := by
  obtain ⟨places, hplaces⟩ := Int.eq_ofNat_of_zero_le (show 0 ≤ -place m e by omega)
  obtain ⟨cut, hcut⟩ := Int.eq_ofNat_of_zero_le (show 0 ≤ place m e - e by omega)
  have hm : n * 2 ^ (places + cut) ≤ m := by
    rw [show e = -((places + cut : ℕ) : Int) by omega, zpow_neg, zpow_natCast, ← div_eq_mul_inv,
      le_div_iff₀ (by positivity)] at hn
    exact_mod_cast hn
  have hkept : n * 2 ^ places ≤ kept m e := by
    rw [kept, hcut, Int.toNat_natCast, Nat.le_div_iff_mul_le (by positivity), mul_assoc, ← pow_add]
    exact hm
  rw [show place m e = -(places : Int) by omega, zpow_neg, zpow_natCast, ← div_eq_mul_inv,
    le_div_iff₀ (by positivity)]
  exact_mod_cast hkept

end Rounding

theorem unpack_of_nonneg {x : Float} {q : ℚ} (h : (read x).IsExactly q) (hq : 0 ≤ q) :
    (∃ s, x.toModel.unpack = .zero s ∧ q = 0) ∨
      ∃ m e hm, x.toModel.unpack = .finite .positive m e hm ∧ IsCanonical m e ∧ q = m * 2 ^ e := by
  obtain ⟨negative, m, e, hread, hvalue⟩ := h
  have hcanonical := isCanonical_of_read hread
  rw [read_eq_ofUnpacked] at hread
  cases hx : x.toModel.unpack with
  | notANumber | infinity => simp [hx, Reading.ofUnpacked] at hread
  | zero s =>
      simp only [hx, Reading.ofUnpacked] at hread
      cases hread
      exact .inl ⟨s, rfl, by simp [hvalue, Reading.signed]⟩
  | finite s significand exponent hm =>
      simp only [hx, Reading.ofUnpacked] at hread
      cases hread
      cases s with
      | positive => exact .inr ⟨_, _, hm, rfl, hcanonical, hvalue⟩
      | negative =>
          have hpos : (0 : ℚ) < m * 2 ^ e := mul_pos (by exact_mod_cast hm) (by positivity)
          simp only [Reading.signed, Reading.isMinus, if_true] at hvalue
          push_cast at hvalue
          linarith

private theorem le_place_mul {m n : Nat} {e f : Int} (hm : IsCanonical m e) (hn : IsCanonical n f)
    (hpos : 0 < m * n) : e + f ≤ place (m * n) (e + f) := by
  have hbits (hfull : 2 ^ 52 ≤ m * n) : 52 ≤ (m * n).log2 := (Nat.le_log2 hpos.ne').2 hfull
  rw [place]
  rcases hm.full with hfull | rfl
  · have := hbits (hfull.trans (Nat.le_mul_of_pos_right m (Nat.pos_of_mul_pos_left hpos)))
    omega
  · rcases hn.full with hfull | rfl
    · have := hbits (hfull.trans (Nat.le_mul_of_pos_left n (Nat.pos_of_mul_pos_right hpos)))
      omega
    · omega

private theorem place_nonpos {m : Nat} {e : Int} (hm : 0 < m) (h : (m * 2 ^ e : ℚ) < 2 ^ 53) :
    place m e ≤ 0 := by
  have hlog : (2 : ℚ) ^ (m.log2 + e) < 2 ^ (53 : Int) := by
    rw [zpow_add₀ two_ne_zero, zpow_natCast]
    refine lt_of_le_of_lt ?_ h
    gcongr
    exact_mod_cast Nat.log2_self_le hm.ne'
  have hlt := (zpow_lt_zpow_iff_right₀ one_lt_two).1 hlog
  rw [place]
  omega

private theorem exists_isExactly_mul_of_pos {m n : Nat} {e f : Int} (hm : 0 < m) (hn : 0 < n)
    (hx : IsCanonical m e) (hy : IsCanonical n f) (hsmall : (m * 2 ^ e * (n * 2 ^ f) : ℚ) < 2 ^ 53) :
    ∃ p, (Reading.ofUnpacked (Float.Model.pack (UnpackedFloat.mul .binary64
        (.finite .positive m e hm) (.finite .positive n f hn))).unpack).IsExactly p ∧
      0 ≤ p ∧ ∀ k : Nat, (k : ℚ) ≤ m * 2 ^ e * (n * 2 ^ f) → (k : ℚ) ≤ p := by
  have hpos : 0 < m * n := Nat.mul_pos hm hn
  have hproduct : (m * 2 ^ e * (n * 2 ^ f) : ℚ) = (m * n : Nat) * 2 ^ (e + f) := by
    rw [zpow_add₀ two_ne_zero]
    push_cast
    ring
  rw [hproduct] at hsmall ⊢
  have hplace := le_place_mul hx hy hpos
  have hnonpos := place_nonpos hpos hsmall
  obtain ⟨rounded, hlow, hexact⟩ := exists_isExactly_round .positive hpos hplace hnonpos
  refine ⟨rounded * 2 ^ place (m * n) (e + f), hexact, by positivity, fun k hk => ?_⟩
  calc (k : ℚ) ≤ kept (m * n) (e + f) * 2 ^ place (m * n) (e + f) := le_kept_of_le hplace hnonpos hk
    _ ≤ rounded * 2 ^ place (m * n) (e + f) := by gcongr

/-- A product of doubles that are not negative does not round to below a natural number that it reaches. -/
theorem exists_isExactly_mul {x y : Float} {q r : ℚ} (hx : (read x).IsExactly q)
    (hy : (read y).IsExactly r) (hq : 0 ≤ q) (hr : 0 ≤ r) (hsmall : q * r < 2 ^ 53) :
    ∃ p, (read (x * y)).IsExactly p ∧ 0 ≤ p ∧ ∀ n : Nat, (n : ℚ) ≤ q * r → (n : ℚ) ≤ p := by
  have hread : read (x * y) = Reading.ofUnpacked (Float.Model.pack
      (UnpackedFloat.mul .binary64 x.toModel.unpack y.toModel.unpack)).unpack :=
    read_eq_ofUnpacked (x * y)
  have hzero (s : UnpackedFloat.Sign)
      (hmul : UnpackedFloat.mul .binary64 x.toModel.unpack y.toModel.unpack = .zero s) :
      (read (x * y)).IsExactly 0 := by
    rw [hread, hmul]
    exact isExactly_zero s
  rcases unpack_of_nonneg hx hq with ⟨s, hs, rfl⟩ | ⟨m, e, hm, hxparts, hxcanonical, rfl⟩
  · refine ⟨0, ?_, le_rfl, fun k hk => by simpa using hk⟩
    rcases unpack_of_nonneg hy hr with ⟨t, ht, -⟩ | ⟨n, f, hn, hyparts, -, -⟩
    · exact hzero (s * t) (by rw [hs, ht]; rfl)
    · exact hzero (s * .positive) (by rw [hs, hyparts]; rfl)
  · rcases unpack_of_nonneg hy hr with ⟨t, ht, rfl⟩ | ⟨n, f, hn, hyparts, hycanonical, rfl⟩
    · refine ⟨0, ?_, le_rfl, fun k hk => by simpa using hk⟩
      exact hzero (.positive * t) (by rw [hxparts, ht]; rfl)
    · rw [hread, hxparts, hyparts]
      exact exists_isExactly_mul_of_pos hm hn hxcanonical hycanonical hsmall

end Binary64

end Workgraph
