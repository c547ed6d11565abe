import TableAudit.Proofs.FloatBits

/-!
# Rounding to floats

The float nearest to a quotient depends on the value of the quotient alone, whichever numerator and
denominator stand for it, and a quotient that a float can hold is not rounded. So a finite float is
the one nearest to the quotient that its own bits stand for.
-/

namespace TableAudit.Decimal

theorem zpow_eq_div (b : ℚ) (k : Int) : b ^ k = b ^ k.toNat / b ^ (-k).toNat := by
  rcases Int.le_total 0 k with h | h
  · have hneg : (-k).toNat = 0 := by omega
    have hk : (k.toNat : Int) = k := Int.toNat_of_nonneg h
    rw [hneg, pow_zero, div_one, ← zpow_natCast, hk]
  · have hpos : k.toNat = 0 := by omega
    have hk : ((-k).toNat : Int) = -k := Int.toNat_of_nonneg (by omega)
    rw [hpos, pow_zero, one_div, ← zpow_natCast, hk, zpow_neg, inv_inv]

theorem div_lt_zpow_iff {num den : Nat} (hd : 0 < den) (k : Int) :
    (num : ℚ) / den < 2 ^ k ↔ num * 2 ^ (-k).toNat < den * 2 ^ k.toNat := by
  have hd' : (0 : ℚ) < den := by exact_mod_cast hd
  have hp : (0 : ℚ) < 2 ^ (-k).toNat := by positivity
  rw [zpow_eq_div, div_lt_div_iff₀ hd' hp, mul_comm (2 ^ k.toNat : ℚ)]
  exact_mod_cast Iff.rfl

/-- Whichever of two numbers is shifted, it is a matter of their quotient and a power of two. -/
theorem shifted_eq {α : Sort*} (f : Nat → Nat → α) (num den : Nat) (k : Int) :
    (if k ≥ 0 then f num (den <<< k.toNat) else f (num <<< (-k).toNat) den) =
      f (num * 2 ^ (-k).toNat) (den * 2 ^ k.toNat) := by
  split
  · have h0 : (-k).toNat = 0 := by omega
    rw [h0, Nat.shiftLeft_eq, pow_zero, mul_one]
  · have h0 : k.toNat = 0 := by omega
    rw [h0, Nat.shiftLeft_eq, pow_zero, mul_one]

theorem zpow_log2_le {n : Nat} (h : 0 < n) : (2 : ℚ) ^ (n.log2 : Int) ≤ n := by
  exact_mod_cast Nat.log2_self_le (Nat.ne_of_gt h)

theorem lt_zpow_log2 (n : Nat) : (n : ℚ) < 2 ^ ((n.log2 : Int) + 1) := by
  exact_mod_cast Nat.lt_log2_self

section Exponents

variable {r : ℚ} {k : Int}

theorem le_log_iff (hr : 0 < r) : k ≤ Int.log 2 r ↔ (2 : ℚ) ^ k ≤ r := by
  exact_mod_cast (Int.zpow_le_iff_le_log (b := 2) one_lt_two hr).symm

theorem log_lt_iff (hr : 0 < r) : Int.log 2 r < k ↔ r < (2 : ℚ) ^ k := by
  exact_mod_cast (Int.lt_zpow_iff_log_lt (b := 2) one_lt_two hr).symm

end Exponents

/-- The difference of the binary logarithms is off by at most one. -/
theorem log_div_bounds {num den : Nat} (hn : 0 < num) (hd : 0 < den) :
    (num.log2 : Int) - den.log2 - 1 ≤ Int.log 2 ((num : ℚ) / den) ∧
      Int.log 2 ((num : ℚ) / den) < (num.log2 : Int) - den.log2 + 1 := by
  have hd' : (0 : ℚ) < den := by exact_mod_cast hd
  have hn' : (0 : ℚ) < num := by exact_mod_cast hn
  have hr : 0 < (num : ℚ) / den := div_pos hn' hd'
  have hdlow := zpow_log2_le hd
  have hdhigh := (lt_zpow_log2 den).le
  constructor
  · rw [le_log_iff hr, le_div_iff₀ hd']
    have hsum : (num.log2 : Int) - den.log2 - 1 + (den.log2 + 1) = num.log2 := by omega
    calc (2 : ℚ) ^ ((num.log2 : Int) - den.log2 - 1) * den
        ≤ 2 ^ ((num.log2 : Int) - den.log2 - 1) * 2 ^ ((den.log2 : Int) + 1) := by gcongr
      _ = 2 ^ (num.log2 : Int) := by rw [← zpow_add₀ two_ne_zero, hsum]
      _ ≤ num := zpow_log2_le hn
  · rw [log_lt_iff hr, div_lt_iff₀ hd']
    have hsum : (num.log2 : Int) - den.log2 + 1 + den.log2 = num.log2 + 1 := by omega
    calc (num : ℚ) < 2 ^ ((num.log2 : Int) + 1) := lt_zpow_log2 num
      _ = 2 ^ ((num.log2 : Int) - den.log2 + 1) * 2 ^ (den.log2 : Int) := by
        rw [← zpow_add₀ two_ne_zero, hsum]
      _ ≤ 2 ^ ((num.log2 : Int) - den.log2 + 1) * den := by gcongr

private theorem binaryExponent_eq_log {num den : Nat} (hn : 0 < num) (hd : 0 < den) :
    binaryExponent num den = Int.log 2 ((num : ℚ) / den) := by
  have hd' : (0 : ℚ) < den := by exact_mod_cast hd
  have hn' : (0 : ℚ) < num := by exact_mod_cast hn
  obtain ⟨hlow, hhigh⟩ := log_div_bounds hn hd
  generalize hk : (num.log2 : Int) - den.log2 = k at *
  have hbelow : (if k ≥ 0 then num < den <<< k.toNat else num <<< (-k).toNat < den) ↔
      Int.log 2 ((num : ℚ) / den) < k := by
    rw [log_lt_iff (div_pos hn' hd'), div_lt_zpow_iff hd, shifted_eq (· < ·)]
  simp only [binaryExponent, hk, hbelow]
  split <;> omega

private theorem roundDiv_mul {k : Nat} (hk : 0 < k) (num den : Nat) :
    roundDiv (k * num) (k * den) = roundDiv num den := by
  have hgt : 2 * (k * (num % den)) > k * den ↔ 2 * (num % den) > den := by
    rw [Nat.mul_left_comm]
    exact Nat.mul_lt_mul_left hk
  have heq : 2 * (k * (num % den)) = k * den ↔ 2 * (num % den) = den := by
    rw [Nat.mul_left_comm]
    exact Nat.mul_right_inj (Nat.ne_of_gt hk)
  simp only [roundDiv, Nat.mul_div_mul_left _ _ hk, Nat.mul_mod_mul_left, hgt, beq_iff_eq, heq,
    decide_eq_true_eq, Bool.or_eq_true, Bool.and_eq_true]

/-- Rounding depends on the quotient alone. -/
theorem roundDiv_congr {num den num' den' : Nat} (hd : 0 < den) (hd' : 0 < den')
    (h : num * den' = num' * den) : roundDiv num den = roundDiv num' den' := by
  rw [← roundDiv_mul hd' num den, ← roundDiv_mul hd num' den', Nat.mul_comm den' num, h,
    Nat.mul_comm num' den, Nat.mul_comm den' den]

private theorem roundDiv_mul_self (m : Nat) {den : Nat} (hd : 0 < den) :
    roundDiv (m * den) den = m := by
  simp [roundDiv, Nat.mul_div_cancel _ hd, hd.ne]

/-- The bits of a nonzero quotient, its last binary place in one formula for both signs. -/
theorem magnitudeBits_eq {num den : Nat} (hn : 0 < num) (hd : 0 < den) {q : Int}
    (hq : q = max (Int.log 2 ((num : ℚ) / den) - 52) (-1074)) :
    magnitudeBits num den =
      (q + 1074).toNat * 2 ^ 52 + roundDiv (num * 2 ^ (-q).toNat) (den * 2 ^ q.toNat) := by
  simp only [magnitudeBits, if_neg (Nat.ne_of_gt hn), binaryExponent_eq_log hn hd, ← hq,
    shifted_eq roundDiv]
  rw [Nat.shiftLeft_eq]

theorem magnitudeBits_congr {num den num' den' : Nat} (hd : 0 < den) (hd' : 0 < den')
    (h : num * den' = num' * den) : magnitudeBits num den = magnitudeBits num' den' := by
  rcases Nat.eq_zero_or_pos num with rfl | hn
  · have hn' : num' = 0 := by simpa [Nat.ne_of_gt hd] using h.symm
    simp [magnitudeBits, hn']
  · have hn' : 0 < num' := by
      apply Nat.pos_of_ne_zero
      rintro rfl
      simp [Nat.ne_of_gt hn, Nat.ne_of_gt hd'] at h
    have hvalue : (num : ℚ) / den = (num' : ℚ) / den' := by
      rw [div_eq_div_iff (by positivity) (by positivity)]
      exact_mod_cast h
    rw [magnitudeBits_eq hn hd rfl, magnitudeBits_eq hn' hd' rfl, hvalue]
    congr 1
    apply roundDiv_congr (by positivity) (by positivity)
    rw [mul_mul_mul_comm, h, mul_mul_mul_comm]

theorem scaled_value (m : Nat) (q : Int) :
    ((m * 2 ^ q.toNat : Nat) : ℚ) / (2 ^ (-q).toNat : Nat) = m * 2 ^ q := by
  rw [zpow_eq_div]
  push_cast
  ring

theorem log_scaled {m : Nat} (hm : 0 < m) (q : Int) :
    Int.log 2 ((m : ℚ) * 2 ^ q) = m.log2 + q := by
  have hpos : (0 : ℚ) < m * 2 ^ q := by positivity
  have hlow : (m.log2 : Int) + q ≤ Int.log 2 ((m : ℚ) * 2 ^ q) := by
    rw [le_log_iff hpos, zpow_add₀ two_ne_zero]
    gcongr
    exact zpow_log2_le hm
  have hhigh : Int.log 2 ((m : ℚ) * 2 ^ q) < (m.log2 : Int) + 1 + q := by
    rw [log_lt_iff hpos, zpow_add₀ two_ne_zero]
    gcongr
    exact lt_zpow_log2 m
  omega

theorem magnitudeBits_exact {m : Nat} (hm : 0 < m) (hlt : m < 2 ^ 53) {q : Int} (hq : -1074 ≤ q)
    (hnormal : 2 ^ 52 ≤ m ∨ q = -1074) :
    magnitudeBits (m * 2 ^ q.toNat) (2 ^ (-q).toNat) = (q + 1074).toNat * 2 ^ 52 + m := by
  have hplace : q = max (Int.log 2 (((m * 2 ^ q.toNat : Nat) : ℚ) / (2 ^ (-q).toNat : Nat)) - 52)
      (-1074) := by
    have h53 : m.log2 < 53 := (Nat.log2_lt (Nat.ne_of_gt hm)).2 hlt
    have h52 : 2 ^ 52 ≤ m → 52 ≤ m.log2 := (Nat.le_log2 (Nat.ne_of_gt hm)).2
    rw [scaled_value, log_scaled hm]
    omega
  rw [magnitudeBits_eq (by positivity) (by positivity) hplace]
  congr 1
  rw [mul_assoc, Nat.mul_comm (2 ^ q.toNat)]
  exact roundDiv_mul_self m (by positivity)

theorem roundDiv_le (num den : Nat) : roundDiv num den ≤ num / den + 1 := by
  unfold roundDiv
  dsimp only
  split <;> omega

private theorem le_roundDiv (num den : Nat) : num / den ≤ roundDiv num den := by
  unfold roundDiv
  dsimp only
  split <;> omega

section Places

variable {num den : Nat} {q : Int}

theorem placed_value (num den : Nat) (q : Int) :
    ((num * 2 ^ (-q).toNat : Nat) : ℚ) / (den * 2 ^ q.toNat : Nat) = (num : ℚ) / den / 2 ^ q := by
  rw [zpow_eq_div]
  push_cast
  rw [div_div_div_eq]

/-- The significand of a rounded quotient has 53 bits, or was carried to the next power of two. It
has all of them unless it stands at the last place there is. -/
theorem roundDiv_bounds (hn : 0 < num) (hd : 0 < den)
    (hq : q = max (Int.log 2 ((num : ℚ) / den) - 52) (-1074)) :
    roundDiv (num * 2 ^ (-q).toNat) (den * 2 ^ q.toNat) ≤ 2 ^ 53 ∧
      (2 ^ 52 ≤ roundDiv (num * 2 ^ (-q).toNat) (den * 2 ^ q.toNat) ∨ q = -1074) := by
  have hr : 0 < (num : ℚ) / den := by positivity
  have hden : 0 < den * 2 ^ q.toNat := by positivity
  have hdenq : (0 : ℚ) < (den * 2 ^ q.toNat : Nat) := by exact_mod_cast hden
  have hvalue := placed_value num den q
  constructor
  · have hlt : (num : ℚ) / den < 2 ^ (53 + q) := by
      rw [← log_lt_iff hr]
      omega
    have hfloor : num * 2 ^ (-q).toNat / (den * 2 ^ q.toNat) < 2 ^ 53 := by
      rw [Nat.div_lt_iff_lt_mul hden]
      rw [zpow_add₀ two_ne_zero, ← div_lt_iff₀ (by positivity), ← hvalue, div_lt_iff₀ hdenq] at hlt
      exact_mod_cast hlt
    have := roundDiv_le (num * 2 ^ (-q).toNat) (den * 2 ^ q.toNat)
    omega
  · by_cases hlast : q = -1074
    · exact .inr hlast
    · left
      have hge : (2 : ℚ) ^ (52 + q) ≤ (num : ℚ) / den := by
        rw [← le_log_iff hr]
        omega
      have hfloor : 2 ^ 52 ≤ num * 2 ^ (-q).toNat / (den * 2 ^ q.toNat) := by
        rw [Nat.le_div_iff_mul_le hden]
        rw [zpow_add₀ two_ne_zero, ← le_div_iff₀ (by positivity), ← hvalue,
          le_div_iff₀ hdenq] at hge
        exact_mod_cast hge
      exact hfloor.trans (le_roundDiv _ _)

/-- What is below the greatest power of two among the floats does not overflow. -/
theorem magnitudeBits_lt_infinity (hd : 0 < den) (h : (num : ℚ) / den < 2 ^ (1023 : Int)) :
    magnitudeBits num den < infinityBits := by
  have hinf : infinityBits = 2047 * 2 ^ 52 := rfl
  rcases Nat.eq_zero_or_pos num with rfl | hn
  · rw [magnitudeBits, if_pos rfl]
    decide
  have hr : 0 < (num : ℚ) / den := by positivity
  have hlog := (log_lt_iff hr).2 h
  have hround := (roundDiv_bounds hn hd rfl).1
  rw [magnitudeBits_eq hn hd rfl]
  omega

end Places

/-- An integer of one machine word is far from what overflows. -/
theorem magnitudeBits_lt {n : Nat} (h : n < 2 ^ 64) : magnitudeBits n 1 < infinityBits := by
  apply magnitudeBits_lt_infinity Nat.one_pos
  have hword : (n : ℚ) < 2 ^ 64 := by exact_mod_cast h
  calc (n : ℚ) / (1 : Nat) = n := by rw [Nat.cast_one, div_one]
    _ < 2 ^ (64 : Int) := by exact_mod_cast hword
    _ ≤ 2 ^ (1023 : Int) := zpow_le_zpow_right₀ one_le_two (by decide)

theorem ratio_eq (p : Parts) :
    p.ratio = (p.significand * 2 ^ p.exponent.toNat, 2 ^ (-p.exponent).toNat) := by
  unfold Parts.ratio
  split
  · have h0 : (-p.exponent).toNat = 0 := by omega
    rw [h0, Nat.shiftLeft_eq, pow_zero]
  · have h0 : p.exponent.toNat = 0 := by omega
    rw [h0, Nat.shiftLeft_eq, pow_zero, mul_one, one_mul]

theorem ratio_pos (p : Parts) : 0 < p.ratio.2 := by
  rw [ratio_eq]
  positivity

/-- A finite float is the one nearest to the quotient that it stands for. -/
theorem ofRatio_ratio {x : Float} {p : Parts} (h : Magnitude.ofFloat x = .finite p) :
    ofRatio p.negative p.ratio.1 p.ratio.2 = x := by
  have hs := spells_ofFloat h
  have hbits : magnitudeBits p.ratio.1 p.ratio.2 =
      (p.exponent + 1074).toNat * 2 ^ 52 + p.significand := by
    rw [ratio_eq]
    rcases Nat.eq_zero_or_pos p.significand with h0 | hpos
    · have he : p.exponent = -1074 := by
        have := hs.normal
        omega
      simp [magnitudeBits, h0, he]
    · exact magnitudeBits_exact hpos hs.lt hs.exponent_ge hs.normal
  have hinf : infinityBits = 2047 * 2 ^ 52 := rfl
  apply Float.toBits_inj.1
  apply UInt64.toNat_inj.1
  have hl := hs.lt
  have hge := hs.exponent_ge
  have hle := hs.exponent_lt
  rw [ofRatio, toNat_toBits_signed, hbits, hs.bits, Nat.min_eq_left (by omega)]

end TableAudit.Decimal
