import Mathlib
import Workgraph.Number.Basic

/-!
# Differences of doubles

The reading of a double agrees with the parts into which the logical model of doubles takes it. With the
rules of the model for infinities and for what is no number this settles when a difference is no number,
also for integers, which become finite doubles.
-/

namespace Workgraph

open Float.Model (UnpackedFloat Format)

namespace Binary64

section Words

variable (word : UInt64)

private theorem toNat_unpackMantissa : (@UnpackedFloat.unpackMantissa .binary64 word.toBitVec).toNat =
    word.toNat % Nat.pow 2 52 := by
  simp [UnpackedFloat.unpackMantissa_def]

theorem toNat_unpackExponent : (@UnpackedFloat.unpackExponent .binary64 word.toBitVec).toNat =
    word.toNat / Nat.pow 2 52 % Nat.pow 2 11 := by
  simp [UnpackedFloat.unpackExponent_def, Nat.shiftRight_eq_div_pow]

private theorem toNat_unpackSign : (@UnpackedFloat.unpackSign .binary64 word.toBitVec).toNat =
    word.toNat / Nat.pow 2 63 := by
  have hword := word.toNat_lt
  simp only [UnpackedFloat.unpackSign_def, BitVec.extractLsb'_toNat, Nat.shiftRight_eq_div_pow]
  change word.toNat / 2 ^ 63 % 2 = word.toNat / 2 ^ 63
  omega

end Words

end Binary64

namespace Reading

def isMinus : UnpackedFloat.Sign → Bool
  | .negative => true
  | .positive => false

/-- What the parts of a double stand for. -/
def ofUnpacked : UnpackedFloat → Reading
  | .notANumber => .nan
  | .infinity s => .infinite (isMinus s)
  | .zero s => .finite (isMinus s) 0 (-1074)
  | .finite s m e _ => .finite (isMinus s) m e

private theorem isMinus_ofBitVec (b : BitVec 1) :
    isMinus (UnpackedFloat.Sign.ofBitVec b) = (b.toNat == 1) := by
  obtain rfl | rfl := BitVec.eq_zero_or_eq_one b <;> rfl

private theorem ofUnpacked_eq_nan_iff (u : UnpackedFloat) : ofUnpacked u = .nan ↔ u = .notANumber := by
  cases u <;> simp [ofUnpacked]

private theorem ofUnpacked_eq_infinite_iff (u : UnpackedFloat) (s : UnpackedFloat.Sign) :
    ofUnpacked u = .infinite (isMinus s) ↔ u = .infinity s := by
  cases u with
  | infinity t => cases s <;> cases t <;> simp [ofUnpacked, isMinus]
  | notANumber | zero | finite => simp [ofUnpacked]

end Reading

namespace Binary64

theorem eq_ones_iff (b : BitVec 11) : b = -1#11 ↔ b.toNat = 2047 := BitVec.toNat_inj.symm

theorem read_eq_ofUnpacked (x : Float) : read x = Reading.ofUnpacked x.toModel.unpack := by
  have hunpack : x.toModel.unpack = UnpackedFloat.unpack .binary64 x.toBits.toBitVec := rfl
  have hzero {n : Nat} (b : BitVec n) : b = 0#n ↔ b.toNat = 0 := by
    rw [← BitVec.toNat_inj, BitVec.toNat_ofNat, Nat.zero_mod]
  simp only [read, ← toNat_unpackMantissa, ← toNat_unpackExponent, ← toNat_unpackSign,
    ← Reading.isMinus_ofBitVec, hunpack]
  unfold UnpackedFloat.unpack
  simp only [eq_ones_iff, hzero]
  split
  · split <;> rfl
  · split <;> rename_i hsmall
    · split <;> rename_i hmantissa
      · rw [hmantissa]
        rfl
      · rw [hsmall]
        rfl
    · -- the model sets the leading bit of the significand, the reading adds its value
      simp only [Reading.ofUnpacked, BitVec.toNat_append]
      congr 1
      have hlt := (@UnpackedFloat.unpackMantissa .binary64 x.toBits.toBitVec).isLt
      exact Nat.shiftLeft_add_eq_or_of_lt hlt 1

private theorem pack_eq_packedNaN_iff (u : UnpackedFloat) :
    UnpackedFloat.pack .binary64 u = UnpackedFloat.packedNaN .binary64 ↔ u = .notANumber := by
  have hexponent (s : UnpackedFloat.Sign) {e : BitVec 11} (m : BitVec 52) (he : e ≠ -1#11) :
      UnpackedFloat.packComponents .binary64 s e m ≠ UnpackedFloat.packedNaN .binary64 := by
    intro heq
    apply he
    simpa [UnpackedFloat.packedNaN] using congrArg (@UnpackedFloat.unpackExponent .binary64) heq
  have hinfinity (s : UnpackedFloat.Sign) :
      UnpackedFloat.packedInfinity .binary64 s ≠ UnpackedFloat.packedNaN .binary64 := by
    intro heq
    have hmantissa := congrArg (@UnpackedFloat.unpackMantissa .binary64) heq
    simp [UnpackedFloat.packedInfinity, UnpackedFloat.packedNaN] at hmantissa
  fun_cases UnpackedFloat.pack .binary64 u with
  | case1 => simp
  | case2 s => simpa using hinfinity s
  | case3 s => simpa [UnpackedFloat.packedZero] using hexponent s 0#52 (by decide : 0#11 ≠ -1#11)
  | case4 s m e hm => simpa using hinfinity s
  | case5 s m e hm _ exponent hsmall =>
      have hlt : exponent + 1 < 2048 := Nat.lt_of_not_le hsmall
      have hne : BitVec.ofNat 11 exponent ≠ -1#11 := by
        rw [ne_eq, eq_ones_iff, BitVec.toNat_ofNat]
        omega
      simpa using hexponent s (BitVec.ofNat 52 m) hne
  | case6 s m e hm => simpa using hexponent s (BitVec.ofNat 52 m) (by decide)

theorem unpack_pack_eq_notANumber_iff (u : UnpackedFloat) :
    (Float.Model.pack u).unpack = .notANumber ↔ u = .notANumber := by
  have hvalid : Format.binary64.Valid (UnpackedFloat.pack .binary64 u) := UnpackedFloat.valid_pack
  exact (UnpackedFloat.unpack_eq_notANumber_iff_of_valid hvalid (by decide)).trans
    (pack_eq_packedNaN_iff u)

private theorem normalize_ne_notANumber (mantissa exponent : Int) (sign : UnpackedFloat.Sign) :
    UnpackedFloat.normalize .binary64 mantissa exponent sign ≠ .notANumber := by
  unfold UnpackedFloat.normalize UnpackedFloat.round UnpackedFloat.roundWithAccuracy
  dsimp only
  split
  · split <;> simp
  · simp
  · split <;> simp

/-- A difference is no number when one of its terms is none or both are the same infinity. -/
theorem sub_eq_notANumber_iff (u v : UnpackedFloat) :
    UnpackedFloat.sub .binary64 u v = .notANumber ↔
      u = .notANumber ∨ v = .notANumber ∨ ∃ s, u = .infinity s ∧ v = .infinity s := by
  cases u with
  | notANumber => simp [UnpackedFloat.sub]
  | infinity s =>
      cases v with
      | infinity t => cases s <;> cases t <;> simp [UnpackedFloat.sub] <;> rfl
      | notANumber | zero | finite => simp [UnpackedFloat.sub]
  | zero s =>
      cases v with
      | zero t =>
          rw [UnpackedFloat.sub]
          split <;> simp
      | notANumber | infinity | finite => simp [UnpackedFloat.sub]
  | finite s m p hm =>
      cases v with
      | finite t n q hn => simp [UnpackedFloat.sub, normalize_ne_notANumber]
      | notANumber | infinity | zero => simp [UnpackedFloat.sub]

theorem read_eq_nan_iff (x : Float) : read x = .nan ↔ x.toModel.unpack = .notANumber := by
  rw [read_eq_ofUnpacked, Reading.ofUnpacked_eq_nan_iff]

private theorem read_eq_infinite_iff (x : Float) (s : UnpackedFloat.Sign) :
    read x = .infinite (Reading.isMinus s) ↔ x.toModel.unpack = .infinity s := by
  rw [read_eq_ofUnpacked, Reading.ofUnpacked_eq_infinite_iff]

private theorem read_sub_eq_nan_iff (x y : Float) : read (x - y) = .nan ↔
    read x = .nan ∨ read y = .nan ∨ ∃ s, read x = .infinite s ∧ read y = .infinite s := by
  have hmodel : (x - y).toModel = Float.Model.pack
    (UnpackedFloat.sub .binary64 x.toModel.unpack y.toModel.unpack) := rfl
  have hsign : (∃ s, read x = .infinite s ∧ read y = .infinite s) ↔
      ∃ s, x.toModel.unpack = .infinity s ∧ y.toModel.unpack = .infinity s := by
    simp only [← read_eq_infinite_iff]
    constructor
    · rintro ⟨s, hx, hy⟩
      cases s with
      | true => exact ⟨.negative, hx, hy⟩
      | false => exact ⟨.positive, hx, hy⟩
    · rintro ⟨s, hx, hy⟩
      exact ⟨_, hx, hy⟩
  rw [read_eq_nan_iff, hmodel, unpack_pack_eq_notANumber_iff, sub_eq_notANumber_iff, hsign,
    read_eq_nan_iff, read_eq_nan_iff]

private theorem read_abs_eq_nan_iff (x : Float) : read x.abs = .nan ↔ read x = .nan := by
  have hmodel : x.abs.toModel = Float.Model.pack x.toModel.unpack.abs := rfl
  rw [read_eq_nan_iff, hmodel, unpack_pack_eq_notANumber_iff, read_eq_nan_iff]
  cases x.toModel.unpack <;> simp [UnpackedFloat.abs]

private theorem exists_read_ofMagnitude (negative : Bool) {bits : Nat} (h : bits < infinityBits) :
    ∃ s m e, read (ofMagnitude negative bits) = .finite s m e := by
  have hsmall : bits < 2047 * 2 ^ 52 := h
  unfold ofMagnitude
  generalize hword : UInt64.ofNat (if negative then Nat.pow 2 63 + bits else bits) = word
  have hexponent : word.toNat / Nat.pow 2 52 % Nat.pow 2 11 ≠ 2047 := by
    have hnat : word.toNat = if negative then 2 ^ 63 + bits else bits := by
      rw [← hword, UInt64.toNat_ofNat']
      apply Nat.mod_eq_of_lt
      split
      · change 2 ^ 63 + bits < _
        omega
      · omega
    rw [hnat]
    change _ / 2 ^ 52 % 2 ^ 11 ≠ 2047
    cases negative <;> simp <;> omega
  have hbits : (Float.ofBits word).toBits = word := by
    apply UInt64.toBitVec_inj.1
    change UnpackedFloat.pack .binary64 (UnpackedFloat.unpack .binary64 word.toBitVec) = _
    rw [UnpackedFloat.pack_unpack _ (by decide), if_neg]
    intro hnan
    have hones := (of_decide_eq_true hnan).1
    exact hexponent ((toNat_unpackExponent word).symm.trans ((eq_ones_iff _).1 hones))
  simp only [read, hbits, if_neg hexponent]
  split
  · exact ⟨_, _, _, rfl⟩
  · exact ⟨_, _, _, rfl⟩

end Binary64

namespace Number

open Binary64

variable {a b d : Number}

theorem read_toFloat {x : Float} (h : a.toFloat = .ok x) :
    (read x = .nan ↔ a.reading = .nan) ∧ ∀ s, read x = .infinite s ↔ a.reading = .infinite s := by
  cases a with
  | float y =>
      cases h
      exact ⟨Iff.rfl, fun _ => Iff.rfl⟩
  | int n =>
      have hfinite : ∃ s m e, read x = .finite s m e := by
        simp only [toFloat, ofInt?, ofRatio?] at h
        split at h <;> rename_i hsome
        · split at hsome <;> rename_i hbits
          · cases hsome
            cases h
            exact exists_read_ofMagnitude _ hbits
          · cases hsome
        · cases h
      obtain ⟨s, m, e, hread⟩ := hfinite
      simp [hread, reading]

theorem reading_sub_eq_nan_iff (h : a.sub b = .ok d) : d.reading = .nan ↔
    a.reading = .nan ∨ b.reading = .nan ∨
      ∃ s, a.reading = .infinite s ∧ b.reading = .infinite s := by
  -- two integers have an integer as their difference; in all other cases both terms become doubles
  have hfloats (hfloat : (do return .float ((← a.toFloat) - (← b.toFloat)) : Except Fault Number) =
      .ok d) : d.reading = .nan ↔ a.reading = .nan ∨ b.reading = .nan ∨
        ∃ s, a.reading = .infinite s ∧ b.reading = .infinite s := by
    cases ha : a.toFloat with
    | error fault => simp [ha, bind, Except.bind] at hfloat
    | ok x =>
        cases hb : b.toFloat with
        | error fault => simp [ha, hb, bind, Except.bind] at hfloat
        | ok y =>
            simp only [ha, hb, bind, Except.bind, pure, Except.pure, Except.ok.injEq] at hfloat
            subst hfloat
            obtain ⟨hanan, hainf⟩ := read_toFloat ha
            obtain ⟨hbnan, hbinf⟩ := read_toFloat hb
            rw [reading, read_sub_eq_nan_iff, hanan, hbnan]
            simp only [hainf, hbinf]
  cases a with
  | float x => exact hfloats h
  | int m =>
      cases b with
      | float y => exact hfloats h
      | int n =>
          cases h
          simp [reading]

theorem reading_abs_eq_nan_iff (a : Number) : a.abs.reading = .nan ↔ a.reading = .nan := by
  cases a with
  | int n => simp [abs, reading]
  | float x => exact Binary64.read_abs_eq_nan_iff x

end Number

end Workgraph
