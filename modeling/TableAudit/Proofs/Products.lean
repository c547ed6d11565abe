import TableAudit.Proofs.Rounding

/-!
# Products of floats

The product of two finite floats is the float nearest to the product of the quotients that they
stand for. The model of floats keeps of the places it drops whether they come to a half and whether
there is anything beside it, which is what rounding to the nearest asks for.
-/

namespace TableAudit.Decimal

open Float.Model Float.Model.UnpackedFloat

section Dropping

/-- A significand `m` without its last `k` places: the places kept, whether the others come to a
half of the last of these, and whether they are something other than nothing and that half. -/
structure Dropped (em : ExtendedMantissa) (m k : Nat) : Prop where
  kept : em.mantissa = m / 2 ^ k
  half : em.roundBit = true ↔ 2 ^ k ≤ 2 * (m % 2 ^ k)
  rest : em.stickyBit = true ↔ 2 * (m % 2 ^ k) ≠ 0 ∧ 2 * (m % 2 ^ k) ≠ 2 ^ k

theorem Dropped.shiftRightOne {em : ExtendedMantissa} {m k : Nat} (h : Dropped em m k) :
    Dropped em.shiftRightOne m (k + 1) := by
  have hlt : m % 2 ^ k < 2 ^ k := Nat.mod_lt _ (by positivity)
  have hpow : 2 ^ (k + 1) = 2 * 2 ^ k := Nat.pow_succ'
  have hnext : m / 2 ^ k % 2 = 0 ∧ m % 2 ^ (k + 1) = m % 2 ^ k ∨
      m / 2 ^ k % 2 = 1 ∧ m % 2 ^ (k + 1) = m % 2 ^ k + 2 ^ k := by
    rw [Nat.mod_pow_succ]
    rcases Nat.mod_two_eq_zero_or_one (m / 2 ^ k) with hbit | hbit
    · exact .inl ⟨hbit, by rw [hbit, Nat.mul_zero, Nat.add_zero]⟩
    · exact .inr ⟨hbit, by rw [hbit, Nat.mul_one]⟩
  rw [hpow] at hnext
  have hanything : (em.roundBit || em.stickyBit) = true ↔ m % 2 ^ k ≠ 0 := by
    rw [Bool.or_eq_true, h.half, h.rest]
    omega
  refine ⟨?_, ?_, ?_⟩
  · rw [ExtendedMantissa.shiftRightOne, h.kept, Nat.div_div_eq_div_mul, pow_succ]
  · rw [ExtendedMantissa.shiftRightOne, bne_iff_ne, h.kept, hpow]
    omega
  · rw [ExtendedMantissa.shiftRightOne, hanything, hpow]
    omega

private theorem dropped_shift (m k : Nat) :
    Dropped (ExtendedMantissa.ofMantissaAndAccuracy m .exact >>> k) m k := by
  induction k with
  | zero =>
    change Dropped ⟨m, false, false⟩ m 0
    refine ⟨by simp, ?_, ?_⟩ <;> simp [Nat.mod_one]
  | succ k ih => exact ih.shiftRightOne

theorem Dropped.roundedMantissa {em : ExtendedMantissa} {m k : Nat} (h : Dropped em m k) :
    em.roundedMantissa = roundDiv m (2 ^ k) := by
  obtain ⟨hkept, hhalf, hrest⟩ := h
  have hlt : m % 2 ^ k < 2 ^ k := Nat.mod_lt _ (by positivity)
  rcases em with ⟨n, half, rest⟩
  dsimp only at hkept hhalf hrest
  subst hkept
  unfold roundDiv
  cases half <;> cases rest <;>
    simp only [ExtendedMantissa.roundedMantissa, ExtendedMantissa.accuracy,
      Accuracy.roundToNearestEven, Bool.or_eq_true, Bool.and_eq_true, decide_eq_true_eq,
      beq_iff_eq, false_iff, true_iff, reduceCtorEq] at *
  all_goals split <;> omega

end Dropping

section Packing

theorem signOf_mul (negative negative' : Bool) :
    signOf negative * signOf negative' = signOf (negative ^^ negative') := by
  cases negative <;> cases negative' <;> rfl

private theorem toNat_packComponents (negative : Bool) (e : BitVec 11) (m : BitVec 52) :
    (packComponents .binary64 (signOf negative) e m).toNat =
      e.toNat * 2 ^ 52 + m.toNat + if negative then 2 ^ 63 else 0 := by
  have he := e.isLt
  have hm := m.isLt
  have hsign : (signOf negative).toBitVec.toNat = if negative then 1 else 0 := by
    cases negative <;> rfl
  change ((signOf negative).toBitVec ++ e ++ m).toNat = _
  rw [BitVec.toNat_append, BitVec.toNat_append, ← Nat.shiftLeft_add_eq_or_of_lt he,
    ← Nat.shiftLeft_add_eq_or_of_lt hm, hsign, Nat.shiftLeft_eq, Nat.shiftLeft_eq]
  cases negative <;> simp only [Bool.false_eq_true, if_false, if_true] <;> omega

variable (negative : Bool) {m : Nat} {q : Int}

theorem toNat_pack_finite (hpos : 0 < m) (hlt : m < 2 ^ 53) (hq : -1074 ≤ q)
    (hnormal : 2 ^ 52 ≤ m ∨ q = -1074) :
    (UnpackedFloat.pack .binary64 (.finite (signOf negative) m q hpos)).toNat =
      min ((q + 1074).toNat * 2 ^ 52 + m) infinityBits + if negative then 2 ^ 63 else 0 := by
  have hinf : infinityBits = 2047 * 2 ^ 52 := rfl
  have hbias : (q + (Format.binary64.exponentBias : Nat) + (52 : Nat)).toNat =
      (q + 1075).toNat := by
    have : Format.binary64.exponentBias = 1023 := rfl
    omega
  have hlog : m.log2 + 1 = 53 ↔ 2 ^ 52 ≤ m := by
    have h52 := Nat.le_log2 (n := m) (k := 52) (Nat.ne_of_gt hpos)
    have h53 := (Nat.log2_lt (n := m) (k := 53) (Nat.ne_of_gt hpos)).2 hlt
    omega
  simp only [UnpackedFloat.pack, hbias]
  change (if 2 ^ 11 ≤ (q + 1075).toNat + 1 then packComponents .binary64 (signOf negative) (-1#_) 0
    else if m.log2 + 1 = 53 then _ else _).toNat = _
  simp only [hlog]
  split
  · next hbig =>
    have hones : (-1#11).toNat = 2047 := rfl
    have hnone : (0 : BitVec 52).toNat = 0 := rfl
    rw [toNat_packComponents, hones, hnone]
    omega
  · next hfit =>
    split
    · next hfull =>
      rw [toNat_packComponents, BitVec.toNat_ofNat, BitVec.toNat_ofNat,
        Nat.mod_eq_of_lt (by omega)]
      omega
    · next hsub =>
      have hsmall : (BitVec.ofNat 52 m).toNat = m := Nat.mod_eq_of_lt (by omega)
      have hnone : (0#11).toNat = 0 := rfl
      rw [toNat_packComponents, hsmall, hnone]
      omega

theorem toNat_pack_zero :
    (UnpackedFloat.pack .binary64 (.zero (signOf negative))).toNat =
      if negative then 2 ^ 63 else 0 := by
  cases negative <;> rfl

end Packing

section Rounding

variable {m : Nat} {e q : Int}

theorem targetExponent_eq (m : Nat) (e : Int) :
    Format.binary64.targetExponent (totalExponent m e) = max (m.log2 + e - 52) (-1074) := by
  have hbits : (Format.binary64.mantissaBits : Int) = 53 := rfl
  have hmin : Format.binary64.minExponent = -1074 := rfl
  rw [Format.targetExponent, totalExponent, hbits, hmin]
  omega

private theorem shiftToTargetExponent_of_lt (hlt : m < 2 ^ 53) (hq : -1074 ≤ q) :
    shiftToTargetExponent .binary64 m q .exact = (⟨m, false, false⟩, q) := by
  have hlog : m.log2 ≤ 52 := by
    rcases Nat.eq_zero_or_pos m with rfl | hpos
    · decide
    · have := (Nat.log2_lt (k := 53) (Nat.ne_of_gt hpos)).2 hlt
      omega
  have hstay : (max ((m.log2 : Int) + q - 52) (-1074) - q).toNat = 0 := by omega
  simp only [shiftToTargetExponent, targetExponent_eq, shiftToExponent, hstay]
  exact Prod.ext rfl (Int.add_zero q)

/-- A significand that was carried to the next power of two moves by one place. -/
theorem shiftToTargetExponent_carry (hq : -1074 ≤ q) :
    shiftToTargetExponent .binary64 (2 ^ 53) q .exact = (⟨2 ^ 52, false, false⟩, q + 1) := by
  have hlog : (2 ^ 53 : Nat).log2 = 53 := Nat.log2_two_pow
  have hone : (max (((2 ^ 53 : Nat).log2 : Int) + q - 52) (-1074) - q).toNat = 1 := by
    rw [hlog]
    omega
  simp only [shiftToTargetExponent, targetExponent_eq, shiftToExponent, hone]
  rfl

/-- What was shifted and rounded once is packed as it stands, carried or not. -/
theorem toNat_pack_carried (negative : Bool) {r : Nat} (hle : r ≤ 2 ^ 53) (hq : -1074 ≤ q)
    (hnormal : 2 ^ 52 ≤ r ∨ q = -1074) {em : ExtendedMantissa}
    (hshift : shiftToTargetExponent .binary64 m e .exact = (em, q))
    (hround : em.roundedMantissa = r) :
    (UnpackedFloat.pack .binary64
        (roundWithAccuracy .binary64 (signOf negative) m e .exact)).toNat =
      min ((q + 1074).toNat * 2 ^ 52 + r) infinityBits + if negative then 2 ^ 63 else 0 := by
  have hinf : infinityBits = 2047 * 2 ^ 52 := rfl
  rw [roundWithAccuracy, hshift]
  dsimp only
  rw [hround]
  rcases Nat.lt_or_eq_of_le hle with hlt | rfl
  · rw [shiftToTargetExponent_of_lt hlt hq]
    dsimp only
    split
    · next hzero =>
      rw [toNat_pack_zero]
      omega
    · exact toNat_pack_finite negative (by omega) hlt hq hnormal
  · rw [shiftToTargetExponent_carry hq]
    dsimp only
    rw [dif_neg (by decide), toNat_pack_finite negative (by decide) (by decide) (by omega)
      (.inl (Nat.le_refl _))]
    omega

/-- Rounding in the model of floats is rounding to the nearest, where places are dropped and none
are missing. -/
theorem toNat_pack_round (negative : Bool) (hpos : 0 < m) (hfull : 52 ≤ m.log2 ∨ e ≤ -1074) :
    (UnpackedFloat.pack .binary64
        (roundWithAccuracy .binary64 (signOf negative) m e .exact)).toNat =
      (ofRatio negative (m * 2 ^ e.toNat) (2 ^ (-e).toNat)).toBits.toNat := by
  obtain ⟨q, hq⟩ : ∃ q : Int, q = max (m.log2 + e - 52) (-1074) := ⟨_, rfl⟩
  have hplace : q = max (Int.log 2 (((m * 2 ^ e.toNat : Nat) : ℚ) / (2 ^ (-e).toNat : Nat)) - 52)
      (-1074) := by
    rw [scaled_value, log_scaled hpos, hq]
  have hshift : shiftToTargetExponent .binary64 m e .exact =
      (ExtendedMantissa.ofMantissaAndAccuracy m .exact >>> (q - e).toNat, q) := by
    rw [shiftToTargetExponent, targetExponent_eq, ← hq, shiftToExponent]
    exact Prod.ext rfl (by dsimp only; omega)
  have hround : roundDiv m (2 ^ (q - e).toNat) =
      roundDiv (m * 2 ^ e.toNat * 2 ^ (-q).toNat) (2 ^ (-e).toNat * 2 ^ q.toNat) := by
    apply roundDiv_congr (by positivity) (by positivity)
    rw [mul_assoc, mul_assoc, ← pow_add, ← pow_add, ← pow_add]
    congr 2
    omega
  obtain ⟨hle, hnormal⟩ := roundDiv_bounds (by positivity) (by positivity) hplace
  rw [toNat_pack_carried negative hle (by omega) hnormal hshift
    ((dropped_shift m _).roundedMantissa.trans hround), ofRatio, toNat_toBits_signed,
    magnitudeBits_eq (by positivity) (by positivity) hplace]

end Rounding

section Multiplication

variable {x y : Float} {p p' : Parts}

/-- No places are missing where the significands of two floats are multiplied. -/
theorem product_full {bits bits' : Nat} (h : p.Spells bits) (h' : p'.Spells bits')
    (hpos : 0 < p.significand) (hpos' : 0 < p'.significand) :
    52 ≤ (p.significand * p'.significand).log2 ∨ p.exponent + p'.exponent ≤ -1074 := by
  have hge := h.exponent_ge
  have hge' := h'.exponent_ge
  rw [Nat.le_log2 (by positivity)]
  rcases h.normal with hfull | hlast
  · exact .inl (hfull.trans (Nat.le_mul_of_pos_right _ hpos'))
  · rcases h'.normal with hfull' | hlast'
    · exact .inl (hfull'.trans (Nat.le_mul_of_pos_left _ hpos))
    · exact .inr (by omega)

private theorem mul_unpacked_zero (hnone : p.significand = 0 ∨ p'.significand = 0) :
    UnpackedFloat.mul .binary64 (Magnitude.finite p).unpacked (Magnitude.finite p').unpacked =
      .zero (signOf (p.negative ^^ p'.negative)) := by
  rw [← signOf_mul]
  rcases Nat.eq_zero_or_pos p.significand with hzero | hpos
  · rw [unpacked_of_zero hzero]
    rcases Nat.eq_zero_or_pos p'.significand with hzero' | hpos'
    · rw [unpacked_of_zero hzero']
      rfl
    · rw [unpacked_of_pos hpos']
      rfl
  · rw [unpacked_of_pos hpos, unpacked_of_zero (hnone.resolve_left (Nat.ne_of_gt hpos))]
    rfl

private theorem ofRatio_zero (negative : Bool) (den : Nat) :
    ofRatio negative 0 den = signed negative 0 := by
  rw [ofRatio, magnitudeBits, if_pos rfl]

/-- Multiplied as quotients or as significands and exponents, the value is the same. -/
theorem ratio_mul (p p' : Parts) :
    p.significand * p'.significand * 2 ^ (p.exponent + p'.exponent).toNat *
        (p.ratio.2 * p'.ratio.2) =
      p.ratio.1 * p'.ratio.1 * 2 ^ (-(p.exponent + p'.exponent)).toNat := by
  have hexp : (p.exponent + p'.exponent).toNat + ((-p.exponent).toNat + (-p'.exponent).toNat) =
      p.exponent.toNat + p'.exponent.toNat + (-(p.exponent + p'.exponent)).toNat := by omega
  rw [ratio_eq, ratio_eq]
  dsimp only
  calc p.significand * p'.significand * 2 ^ (p.exponent + p'.exponent).toNat *
        (2 ^ (-p.exponent).toNat * 2 ^ (-p'.exponent).toNat)
      = p.significand * p'.significand *
          2 ^ ((p.exponent + p'.exponent).toNat +
            ((-p.exponent).toNat + (-p'.exponent).toNat)) := by rw [pow_add, pow_add]; ring
    _ = p.significand * 2 ^ p.exponent.toNat * (p'.significand * 2 ^ p'.exponent.toNat) *
          2 ^ (-(p.exponent + p'.exponent)).toNat := by rw [hexp, pow_add, pow_add]; ring

private theorem toBits_mul (x y : Float) :
    (x * y).toBits.toNat =
      (UnpackedFloat.pack .binary64
        (UnpackedFloat.mul .binary64 x.toModel.unpack y.toModel.unpack)).toNat :=
  rfl

/-- The product of two finite floats is the one nearest to the product of their quotients. -/
theorem mul_eq_ofRatio (h : Magnitude.ofFloat x = .finite p)
    (h' : Magnitude.ofFloat y = .finite p') :
    x * y = ofRatio (p.negative ^^ p'.negative) (p.ratio.1 * p'.ratio.1)
      (p.ratio.2 * p'.ratio.2) := by
  apply Float.toBits_inj.1
  apply UInt64.toNat_inj.1
  rw [toBits_mul, unpack_toModel, unpack_toModel, h, h']
  by_cases hnone : p.significand = 0 ∨ p'.significand = 0
  · have hnum : p.ratio.1 * p'.ratio.1 = 0 := by
      rw [ratio_eq, ratio_eq]
      rcases hnone with hzero | hzero <;> simp [hzero]
    rw [mul_unpacked_zero hnone, toNat_pack_zero, hnum, ofRatio_zero, toNat_toBits_signed,
      Nat.zero_min, Nat.zero_add]
  · obtain ⟨hpos, hpos'⟩ : 0 < p.significand ∧ 0 < p'.significand := by omega
    have hvalue : magnitudeBits
        (p.significand * p'.significand * 2 ^ (p.exponent + p'.exponent).toNat)
        (2 ^ (-(p.exponent + p'.exponent)).toNat) =
          magnitudeBits (p.ratio.1 * p'.ratio.1) (p.ratio.2 * p'.ratio.2) := by
      exact magnitudeBits_congr (by positivity) (Nat.mul_pos (ratio_pos p) (ratio_pos p'))
        (ratio_mul p p')
    rw [unpacked_of_pos hpos, unpacked_of_pos hpos']
    change (UnpackedFloat.pack .binary64 (roundWithAccuracy .binary64
      (signOf p.negative * signOf p'.negative) (p.significand * p'.significand)
      (p.exponent + p'.exponent) .exact)).toNat = _
    rw [signOf_mul, toNat_pack_round _ (Nat.mul_pos hpos hpos')
      (product_full (spells_ofFloat h) (spells_ofFloat h') hpos hpos'), ofRatio, ofRatio, hvalue]

end Multiplication

end TableAudit.Decimal
