import TableAudit.Audit.Profile
import TableAudit.Proofs.Products

/-!
# Ranks of quantiles

The place of a quantile among `n + 1` numbers is a rounded product of two rounded factors. Rounding
adds less than what a share below the whole leaves, so neither rank beside the place is beyond the
last number.
-/

namespace TableAudit.Decimal

section Sizes

variable {x y : Float} {p p' : Parts} {num den n : Nat}

def Parts.size (p : Parts) : ℚ := p.significand * 2 ^ p.exponent

private theorem size_nonneg (p : Parts) : 0 ≤ p.size := by
  unfold Parts.size
  positivity

theorem ratio_div (p : Parts) : (p.ratio.1 : ℚ) / p.ratio.2 = p.size := by
  rw [ratio_eq]
  exact scaled_value p.significand p.exponent

theorem bits_ofRatio {negative : Bool}
    (h : Magnitude.ofFloat (ofRatio negative num den) = .finite p) :
    p.negative = negative ∧
      magnitudeBits num den = (p.exponent + 1074).toNat * 2 ^ 52 + p.significand := by
  have hs := spells_ofFloat h
  have hinf : infinityBits = 2047 * 2 ^ 52 := rfl
  have hlt := hs.lt
  have hge := hs.exponent_ge
  have hle := hs.exponent_lt
  have hbits := hs.bits
  rw [ofRatio, toNat_toBits_signed] at hbits
  cases negative <;> cases hp : p.negative <;> rw [hp] at hbits <;>
    simp only [Bool.false_eq_true, if_false, if_true] at hbits
  all_goals first | exact ⟨rfl, by omega⟩ | omega

private theorem roundDiv_mul_le (num den : Nat) (q : Int) :
    (roundDiv (num * 2 ^ (-q).toNat) (den * 2 ^ q.toNat) : ℚ) * 2 ^ q ≤
      (num : ℚ) / den + 2 ^ q := by
  have hround : (roundDiv (num * 2 ^ (-q).toNat) (den * 2 ^ q.toNat) : ℚ) ≤
      ((num * 2 ^ (-q).toNat / (den * 2 ^ q.toNat) : Nat) : ℚ) + 1 := by
    exact_mod_cast roundDiv_le (num * 2 ^ (-q).toNat) (den * 2 ^ q.toNat)
  have hfloor : ((num * 2 ^ (-q).toNat / (den * 2 ^ q.toNat) : Nat) : ℚ) ≤
      (num : ℚ) / den / 2 ^ q := by
    rw [← placed_value]
    exact Nat.cast_div_le
  calc (roundDiv (num * 2 ^ (-q).toNat) (den * 2 ^ q.toNat) : ℚ) * 2 ^ q
      ≤ ((num : ℚ) / den / 2 ^ q + 1) * 2 ^ q := by gcongr; linarith
    _ = (num : ℚ) / den + 2 ^ q := by
      rw [add_mul, one_mul, div_mul_cancel₀ _ (by positivity)]

section Places

variable {q : Int} (hn : 0 < num) (hd : 0 < den)
  (hq : q = max (Int.log 2 ((num : ℚ) / den) - 52) (-1074))

include hn hd hq

/-- A rounded quotient is its significand at the last place, carried or not. -/
theorem size_ofRatio {negative : Bool}
    (h : Magnitude.ofFloat (ofRatio negative num den) = .finite p) :
    p.size = roundDiv (num * 2 ^ (-q).toNat) (den * 2 ^ q.toNat) * 2 ^ q := by
  have hs := spells_ofFloat h
  have hlt := hs.lt
  have hge := hs.exponent_ge
  have hfull := hs.normal
  have hbits := (bits_ofRatio h).2
  obtain ⟨hcarry, hnormal⟩ := roundDiv_bounds hn hd hq
  rw [magnitudeBits_eq hn hd hq] at hbits
  generalize roundDiv (num * 2 ^ (-q).toNat) (den * 2 ^ q.toNat) = r at *
  have hcases : p.exponent = q ∧ p.significand = r ∨
      p.exponent = q + 1 ∧ p.significand = 2 ^ 52 ∧ r = 2 ^ 53 := by omega
  rcases hcases with ⟨he, hm⟩ | ⟨he, hm, hr⟩
  · rw [Parts.size, he, hm]
  · rw [Parts.size, he, hm, hr, zpow_add₀ two_ne_zero]
    push_cast
    ring

private theorem lastPlace_le : (2 : ℚ) ^ q ≤ ((num : ℚ) / den + 1) / 2 ^ 52 := by
  have hr : 0 < (num : ℚ) / den := by positivity
  have hlog := (le_log_iff hr).1 (Int.le_refl _)
  have hplace : (2 : ℚ) ^ (Int.log 2 ((num : ℚ) / den) - 52) =
      2 ^ Int.log 2 ((num : ℚ) / den) / 2 ^ 52 := by
    rw [zpow_sub₀ two_ne_zero]
    rfl
  rcases max_choice (Int.log 2 ((num : ℚ) / den) - 52) (-1074) with hmax | hmax
  · rw [hq, hmax, hplace]
    gcongr
    linarith
  · calc (2 : ℚ) ^ q = 2 ^ (-1074 : Int) := by rw [hq, hmax]
      _ ≤ 2 ^ (-52 : Int) := zpow_le_zpow_right₀ one_le_two (by decide)
      _ = 1 / 2 ^ 52 := by rw [zpow_neg, one_div]; rfl
      _ ≤ ((num : ℚ) / den + 1) / 2 ^ 52 := by gcongr; linarith

end Places

/-- What a quotient is rounded to: no more than one unit of its last place beyond it, and zero only
from zero. -/
structure Parts.Near (p : Parts) (v : ℚ) : Prop where
  le : p.size ≤ v + (v + 1) / 2 ^ 52
  zero : v = 0 → p.size = 0

private theorem near_ofRatio {negative : Bool} (hd : 0 < den)
    (h : Magnitude.ofFloat (ofRatio negative num den) = .finite p) :
    p.Near ((num : ℚ) / den) := by
  rcases Nat.eq_zero_or_pos num with rfl | hn
  · have hbits := (bits_ofRatio h).2
    have hnone : p.significand = 0 := by
      rw [magnitudeBits, if_pos rfl] at hbits
      omega
    have hzero : p.size = 0 := by rw [Parts.size, hnone, Nat.cast_zero, zero_mul]
    exact ⟨by rw [hzero]; positivity, fun _ => hzero⟩
  · have hplace := lastPlace_le hn hd rfl
    have hround := roundDiv_mul_le num den (max (Int.log 2 ((num : ℚ) / den) - 52) (-1074))
    have hr : 0 < (num : ℚ) / den := by positivity
    refine ⟨?_, fun hzero => absurd hzero hr.ne'⟩
    rw [size_ofRatio hn hd rfl h]
    linarith

/-- A quotient far from what overflows is rounded to a finite float. -/
theorem exists_near_ofRatio (negative : Bool) (hd : 0 < den) (h : (num : ℚ) / den < 2 ^ 66) :
    ∃ p, Magnitude.ofFloat (ofRatio negative num den) = .finite p ∧ p.Near ((num : ℚ) / den) := by
  have hfar : (num : ℚ) / den < 2 ^ (1023 : Int) :=
    calc (num : ℚ) / den < 2 ^ (66 : Int) := by exact_mod_cast h
      _ ≤ 2 ^ (1023 : Int) := zpow_le_zpow_right₀ one_le_two (by decide)
  have hfinite := isFinite_signed (magnitudeBits_lt_infinity hd hfar) negative
  unfold isFinite at hfinite
  split at hfinite
  · next p hp => exact ⟨p, hp, near_ofRatio hd hp⟩
  · cases hfinite

theorem exists_near_ofInt (h : (n : ℚ) < 2 ^ 66) :
    ∃ p, Magnitude.ofFloat (ofInt n) = .finite p ∧ p.Near n := by
  have hsign : decide ((n : Int) < 0) = false := decide_eq_false (by omega)
  have hone : (n : ℚ) / (1 : Nat) = n := by rw [Nat.cast_one, div_one]
  rw [← hone] at h
  have hnear := exists_near_ofRatio false Nat.one_pos h
  rw [hone] at hnear
  rwa [ofInt, hsign, Int.natAbs_natCast]

theorem exists_near_mul (h : Magnitude.ofFloat x = .finite p)
    (h' : Magnitude.ofFloat y = .finite p') (hlt : p.size * p'.size < 2 ^ 66) :
    ∃ r, Magnitude.ofFloat (x * y) = .finite r ∧ r.Near (p.size * p'.size) := by
  have hvalue : ((p.ratio.1 * p'.ratio.1 : Nat) : ℚ) / (p.ratio.2 * p'.ratio.2 : Nat) =
      p.size * p'.size := by
    rw [← ratio_div, ← ratio_div, Nat.cast_mul, Nat.cast_mul, mul_div_mul_comm]
  rw [mul_eq_ofRatio h h', ← hvalue]
  exact exists_near_ofRatio _ (Nat.mul_pos (ratio_pos p) (ratio_pos p')) (hvalue ▸ hlt)

end Sizes

section Words

variable {x : Float} {p : Parts} {n : Nat}

private theorem toWord_le_maxWord (round : Nat → Nat → Nat) (x : Float) :
    toWord round x ≤ maxWord := by
  unfold toWord
  split
  · split
    · exact Nat.zero_le _
    · exact Nat.min_le_right _ _
  · split
    · exact Nat.zero_le _
    · exact Nat.le_refl _
  · exact Nat.zero_le _

private theorem wordAbove_le (h : Magnitude.ofFloat x = .finite p) (hle : p.size ≤ n) :
    wordAbove x ≤ n := by
  have hpos := ratio_pos p
  have hnum : p.ratio.1 ≤ n * p.ratio.2 := by
    rw [← ratio_div, div_le_iff₀ (by exact_mod_cast hpos)] at hle
    exact_mod_cast hle
  have hquot : (p.ratio.1 + (p.ratio.2 - 1)) / p.ratio.2 ≤ n := by
    rw [← Nat.lt_succ_iff, Nat.div_lt_iff_lt_mul hpos, Nat.succ_mul]
    omega
  rw [wordAbove, toWord, h]
  dsimp only
  split
  · exact Nat.zero_le _
  · exact (Nat.min_le_left _ _).trans hquot

theorem wordBelow_le_wordAbove (x : Float) : wordBelow x ≤ wordAbove x := by
  unfold wordBelow wordAbove toWord
  split
  · next p _ =>
    have hquot : p.ratio.1 / p.ratio.2 ≤ (p.ratio.1 + (p.ratio.2 - 1)) / p.ratio.2 :=
      Nat.div_le_div_right (Nat.le_add_right _ _)
    split
    · exact Nat.le_refl _
    · exact min_le_min_right _ hquot
  · exact Nat.le_refl _
  · exact Nat.le_refl _

end Words

section Quantiles

/-- A share of the whole that leaves room for rounding. -/
def isShare (x : Float) : Bool :=
  match Magnitude.ofFloat x with
  | .finite p => 25 * p.ratio.1 ≤ 24 * p.ratio.2
  | _ => false

theorem exists_share {x : Float} (h : isShare x = true) :
    ∃ p, Magnitude.ofFloat x = .finite p ∧ p.size ≤ 24 / 25 := by
  unfold isShare at h
  split at h
  · next p hp =>
    have hpos : (0 : ℚ) < p.ratio.2 := by exact_mod_cast ratio_pos p
    have hle : (25 : ℚ) * p.ratio.1 ≤ 24 * p.ratio.2 := by exact_mod_cast of_decide_eq_true h
    refine ⟨p, hp, ?_⟩
    rw [← ratio_div, div_le_iff₀ hpos]
    linarith
  · cases h

/-- The place of a share among numbers counted from zero is not beyond the last. -/
theorem wordAbove_mul_le {x : Float} (h : isShare x = true) (n : Nat) :
    wordAbove (x * ofInt n) ≤ n := by
  by_cases hlt : n < maxWord
  swap
  · exact (toWord_le_maxWord _ _).trans (Nat.le_of_not_lt hlt)
  have hn : (n : ℚ) < 2 ^ 64 := by exact_mod_cast hlt.trans (by decide)
  obtain ⟨p, hp, hshare⟩ := exists_share h
  obtain ⟨p', hp', hle', hzero'⟩ := exists_near_ofInt (hn.trans (by norm_num))
  have hproduct : p.size * p'.size ≤ 24 / 25 * p'.size :=
    mul_le_mul_of_nonneg_right hshare (size_nonneg p')
  obtain ⟨r, hr, hle, hzero⟩ := exists_near_mul hp hp' (by linarith)
  apply wordAbove_le hr
  rcases Nat.eq_zero_or_pos n with rfl | hpos
  · rw [hzero (by rw [hzero' Nat.cast_zero, mul_zero])]
    exact Nat.cast_nonneg 0
  · -- both roundings together add less than the twenty-fifth part that is left
    have hone : (1 : ℚ) ≤ n := by exact_mod_cast hpos
    linarith

end Quantiles

end TableAudit.Decimal
