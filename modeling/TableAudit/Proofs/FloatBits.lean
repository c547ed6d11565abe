import Mathlib
import TableAudit.Decimal.Nearest

/-!
# Bits of floats

A float is read off its bits and put together from them, and nothing is lost on the way but the
payload of what is not a number. The bits of a finite float say what its significand and its
exponent are, and within which bounds.
-/

namespace TableAudit.Decimal

open Float.Model Float.Model.UnpackedFloat

section Packing

variable (v : BitVec Format.binary64.numBits)

theorem toNat_unpackMantissa : (unpackMantissa v).toNat = v.toNat % 2 ^ 52 := by
  simp [unpackMantissa, Format.numBits]

theorem toNat_unpackExponent : (unpackExponent v).toNat = v.toNat / 2 ^ 52 % 2 ^ 11 := by
  simp [unpackExponent, Format.numBits, Nat.shiftRight_eq_div_pow]

private theorem toNat_unpackSign : (unpackSign v).toNat = v.toNat / 2 ^ 63 := by
  have := v.isLt
  simp [unpackSign, Format.numBits, Nat.shiftRight_eq_div_pow] at *
  omega

theorem unpackMantissa_eq_zero : unpackMantissa v = 0#_ ↔ v.toNat % 2 ^ 52 = 0 := by
  rw [← BitVec.toNat_inj, toNat_unpackMantissa]
  rfl

private theorem unpackExponent_eq_zero : unpackExponent v = 0#_ ↔ v.toNat / 2 ^ 52 % 2048 = 0 := by
  rw [← BitVec.toNat_inj, toNat_unpackExponent]
  rfl

theorem unpackExponent_eq_ones : unpackExponent v = -1#_ ↔ v.toNat / 2 ^ 52 % 2048 = 2047 := by
  rw [← BitVec.toNat_inj, toNat_unpackExponent]
  rfl

private theorem isNaNBits_eq_false (h : v.toNat % 2 ^ 63 ≤ infinityBits) : isNaNBits v = false := by
  have hinf : infinityBits = 2047 * 2 ^ 52 := rfl
  rw [isNaNBits, decide_eq_false_iff_not]
  rintro ⟨hones, hsome⟩
  have hgreatest := (unpackExponent_eq_ones v).1 hones
  exact hsome ((unpackMantissa_eq_zero v).2 (by omega))

theorem toBits_ofBits {b : UInt64} (h : b.toNat % 2 ^ 63 ≤ infinityBits) :
    (Float.ofBits b).toBits = b := by
  have hpack : ∀ v : BitVec Format.binary64.numBits, v.toNat % 2 ^ 63 ≤ infinityBits →
      UnpackedFloat.pack Format.binary64 (UnpackedFloat.unpack Format.binary64 v) = v := by
    intro v hv
    rw [pack_unpack, isNaNBits_eq_false v hv]
    rfl
  exact congrArg UInt64.ofBitVec (hpack b.toBitVec h)

end Packing

section Signed

theorem toNat_toBits_signed (negative : Bool) (bits : Nat) :
    (signed negative bits).toBits.toNat =
      min bits infinityBits + if negative then 2 ^ 63 else 0 := by
  have hinf : infinityBits = 2047 * 2 ^ 52 := rfl
  have hn : (UInt64.ofNat (min bits infinityBits + if negative then 1 <<< 63 else 0)).toNat =
      min bits infinityBits + if negative then 2 ^ 63 else 0 := by
    rw [UInt64.toNat_ofNat']
    apply Nat.mod_eq_of_lt
    split <;> omega
  rw [signed, toBits_ofBits, hn]
  rw [hn]
  split <;> omega

private theorem signed_inj {negative : Bool} {b b' : Nat}
    (h : signed negative b = signed negative b') :
    min b infinityBits = min b' infinityBits := by
  have hbits := congrArg (fun x => x.toBits.toNat) h
  simp only [toNat_toBits_signed] at hbits
  omega

theorem signed_congr {b b' : Nat} (h : signed false b = signed false b') (negative : Bool) :
    signed negative b = signed negative b' := by
  simp only [signed, signed_inj h]

/-- Only the greatest exponent is left to what is no finite number. -/
theorem isFinite_of_bits {x : Float} (h : x.toBits.toNat / 2 ^ 52 % 2048 ≠ 0x7ff) :
    isFinite x = true := by
  unfold isFinite
  cases hx : Magnitude.ofFloat x with
  | finite p => rfl
  | infinite negative =>
    simp only [Magnitude.ofFloat, Nat.shiftRight_eq_div_pow, if_neg h] at hx
    split at hx <;> cases hx
  | notANumber =>
    simp only [Magnitude.ofFloat, Nat.shiftRight_eq_div_pow, if_neg h] at hx
    split at hx <;> cases hx

theorem isFinite_signed {bits : Nat} (h : bits < infinityBits) (negative : Bool) :
    isFinite (signed negative bits) = true := by
  have hinf : infinityBits = 2047 * 2 ^ 52 := rfl
  apply isFinite_of_bits
  rw [toNat_toBits_signed]
  cases negative <;> simp <;> omega

end Signed

/-- What the bits of a finite float say. -/
structure Parts.Spells (p : Parts) (bits : Nat) : Prop where
  lt : p.significand < 2 ^ 53
  exponent_ge : -1074 ≤ p.exponent
  exponent_lt : p.exponent < 972
  normal : 2 ^ 52 ≤ p.significand ∨ p.exponent = -1074
  bits : bits = (p.exponent + 1074).toNat * 2 ^ 52 + p.significand +
    if p.negative then 2 ^ 63 else 0

theorem spells_ofFloat {x : Float} {p : Parts} (h : Magnitude.ofFloat x = .finite p) :
    p.Spells x.toBits.toNat := by
  have hlt := x.toBits.toNat_lt
  generalize hb : x.toBits.toNat = bits at *
  simp only [Magnitude.ofFloat, hb, Nat.shiftRight_eq_div_pow, Nat.shiftLeft_eq, Nat.one_mul] at h
  split at h
  · split at h <;> cases h
  · have hneg : (if decide (bits ≥ 2 ^ 63) = true then 2 ^ 63 else 0) = bits / 2 ^ 63 * 2 ^ 63 := by
      simp only [decide_eq_true_eq]
      split <;> omega
    split at h <;> cases h
    · exact ⟨by dsimp only; omega, Int.le_refl _, by dsimp only; omega, .inr rfl,
        by rw [hneg]; dsimp only; omega⟩
    · exact ⟨by dsimp only; omega, by dsimp only; omega, by dsimp only; omega,
        by dsimp only; omega, by rw [hneg]; dsimp only; omega⟩

section Unpacking

def signOf (negative : Bool) : Sign := if negative then .negative else .positive

def Magnitude.unpacked : Magnitude → UnpackedFloat
  | .finite p =>
    if h : 0 < p.significand then .finite (signOf p.negative) p.significand p.exponent h
    else .zero (signOf p.negative)
  | .infinite negative => .infinity (signOf negative)
  | .notANumber => .notANumber

theorem unpacked_of_pos {p : Parts} (h : 0 < p.significand) :
    (Magnitude.finite p).unpacked =
      .finite (signOf p.negative) p.significand p.exponent h :=
  dif_pos h

theorem unpacked_of_zero {p : Parts} (h : p.significand = 0) :
    (Magnitude.finite p).unpacked = .zero (signOf p.negative) :=
  dif_neg (by omega)

variable (v : BitVec Format.binary64.numBits)

private theorem ofBitVec_unpackSign :
    Sign.ofBitVec (unpackSign v) = signOf (decide (v.toNat ≥ 2 ^ 63)) := by
  have hlt : v.toNat < 2 ^ 64 := v.isLt
  have hzero : unpackSign v = 0#1 ↔ ¬ v.toNat ≥ 2 ^ 63 := by
    rw [← BitVec.toNat_inj, toNat_unpackSign]
    change _ = 0 ↔ _
    omega
  simp only [Sign.ofBitVec, signOf, hzero, decide_eq_true_eq, ite_not]

private theorem toNat_withImplicit :
    (1#1 ++ unpackMantissa v).toNat = v.toNat % 2 ^ 52 + 2 ^ 52 := by
  rw [BitVec.toNat_append, ← Nat.shiftLeft_add_eq_or_of_lt (unpackMantissa v).isLt,
    toNat_unpackMantissa, Nat.add_comm]
  rfl

private theorem finite_congr {sign : Sign} {m m' : Nat} {e e' : Int} {hpos : 0 < m} {hpos' : 0 < m'}
    (hm : m = m') (he : e = e') :
    UnpackedFloat.finite sign m e hpos = .finite sign m' e' hpos' := by
  subst hm he
  rfl

theorem unpack_toModel (x : Float) : x.toModel.unpack = (Magnitude.ofFloat x).unpacked := by
  obtain ⟨v, hv⟩ : ∃ v : BitVec Format.binary64.numBits, v = x.toBits.toBitVec := ⟨_, rfl⟩
  have hbits : x.toBits.toNat = v.toNat := by
    rw [hv]
    rfl
  have hunpack : x.toModel.unpack = UnpackedFloat.unpack .binary64 v := by
    rw [hv]
    rfl
  have hmant := toNat_unpackMantissa v
  have hexp := toNat_unpackExponent v
  have hbias : ((Format.binary64.exponentBias : Nat) : Int) + (52 : Nat) = 1075 := rfl
  have hsign := ofBitVec_unpackSign v
  have hnone := unpackMantissa_eq_zero v
  have hzero := unpackExponent_eq_zero v
  have hones := unpackExponent_eq_ones v
  rw [hunpack]
  unfold UnpackedFloat.unpack Magnitude.ofFloat
  simp only [hbits, Nat.shiftRight_eq_div_pow, Nat.shiftLeft_eq, Nat.one_mul, hsign]
  split
  · next h =>
    rw [if_pos (hones.1 h)]
    split
    · next hm =>
      rw [if_pos (hnone.1 hm)]
      rfl
    · next hm =>
      rw [if_neg (hm ∘ hnone.2)]
      rfl
  · next h =>
    rw [if_neg (h ∘ hones.2)]
    split
    · next he =>
      rw [if_pos (hzero.1 he)]
      have hlowest := hzero.1 he
      split
      · next hm =>
        rw [unpacked_of_zero (hnone.1 hm)]
      · next hm =>
        rw [unpacked_of_pos (Nat.pos_of_ne_zero (hm ∘ hnone.2))]
        apply finite_congr hmant
        dsimp only
        omega
    · next he =>
      rw [if_neg (he ∘ hzero.2)]
      rw [unpacked_of_pos (Nat.add_pos_right _ (by decide))]
      apply finite_congr (toNat_withImplicit v)
      dsimp only
      omega

/-- Bits up to those of infinity are those of a number or of infinity. -/
theorem magnitude_of_pos {x : Float} (hpos : 0 < x.toBits.toNat)
    (hle : x.toBits.toNat ≤ infinityBits) :
    Magnitude.ofFloat x = .infinite false ∨
      ∃ p, Magnitude.ofFloat x = .finite p ∧ p.negative = false ∧ 0 < p.significand := by
  have hinf : infinityBits = 2047 * 2 ^ 52 := rfl
  unfold Magnitude.ofFloat
  generalize x.toBits.toNat = bits at *
  have hneg : decide (bits ≥ 2 ^ 63) = false := decide_eq_false (by omega)
  simp only [Nat.shiftRight_eq_div_pow, Nat.shiftLeft_eq, Nat.one_mul, hneg]
  split
  · left
    rw [if_pos (by omega)]
  · right
    split
    · exact ⟨_, rfl, rfl, by dsimp only; omega⟩
    · exact ⟨_, rfl, rfl, by dsimp only; omega⟩

end Unpacking

section Quotients

private theorem zero_div_of_pos {x : Float} (hpos : 0 < x.toBits.toNat)
    (hle : x.toBits.toNat ≤ infinityBits) : signed false 0 / x = signed false 0 := by
  have hdiv : UnpackedFloat.div .binary64 (.zero .positive) x.toModel.unpack =
      .zero .positive := by
    rw [unpack_toModel]
    rcases magnitude_of_pos hpos hle with h | ⟨p, h, hneg, hsome⟩
    · rw [h]
      rfl
    · rw [h, unpacked_of_pos hsome, hneg]
      rfl
  exact congrArg (fun u => Float.ofModel (Float.Model.pack u)) hdiv

private theorem binaryExponent_one {n : Nat} (h : 0 < n) : binaryExponent n 1 = n.log2 := by
  have hself := Nat.log2_self_le (Nat.ne_of_gt h)
  have h1 : (1 : Nat).log2 = 0 := rfl
  have hnlt : ¬ n < 1 <<< n.log2 := by
    rw [Nat.shiftLeft_eq]
    omega
  simp [binaryExponent, h1, hnlt]

private theorem magnitudeBits_pos {n : Nat} (h : 0 < n) : 0 < magnitudeBits n 1 := by
  rw [magnitudeBits, if_neg (Nat.ne_of_gt h), binaryExponent_one h]
  dsimp only
  rw [Nat.shiftLeft_eq]
  omega

theorem zero_div_ofInt {n : Nat} (h : 0 < n) : ofInt (0 : Nat) / ofInt n = ofInt (0 : Nat) := by
  have hsign : decide ((n : Int) < 0) = false := decide_eq_false (by omega)
  have hn : ofInt n = signed false (magnitudeBits n 1) := by
    rw [ofInt, ofRatio, hsign, Int.natAbs_natCast]
  have hpos := magnitudeBits_pos h
  have hinf : infinityBits = 2047 * 2 ^ 52 := rfl
  have hbits := toNat_toBits_signed false (magnitudeBits n 1)
  rw [← hn] at hbits
  simp only [Bool.false_eq_true, if_false, Nat.add_zero] at hbits
  exact zero_div_of_pos (by omega) (by omega)

end Quotients

end TableAudit.Decimal
