import TableAudit.Decimal.Shortest
import TableAudit.Proofs.Rounding

/-!
# The shortest digits read back

A decimal is rounded as the quotient that it stands for, so that zeros at the end of its coefficient
count as much as in its exponent. Whichever grid the search for the fewest digits ends on, its
result rounds to the float that it was made for: either that was tried, or the digits are all those
of the exact value.
-/

namespace TableAudit.Decimal

section Scaled

theorem tenTo_eq (n : Nat) : tenTo n = 10 ^ n := rfl

private theorem digitCount_pos (n : Nat) : 0 < digitCount n := Nat.length_toDigits_pos

theorem digitCount_le_iff {n k : Nat} (hk : 0 < k) : digitCount n ≤ k ↔ n < 10 ^ k :=
  Nat.length_toDigits_le_iff (by decide) hk

private theorem toDigits_mul_ten {n : Nat} (hn : 0 < n) :
    Nat.toDigits 10 (n * 10) = Nat.toDigits 10 n ++ ['0'] := by
  have h := Nat.toDigits_append_toDigits (b := 10) (by decide) hn (d := 0) (by decide)
  rw [Nat.add_zero, Nat.mul_comm] at h
  exact h.symm

private theorem digitCount_mul_pow {m : Nat} (hm : 0 < m) (k : Nat) :
    digitCount (m * 10 ^ k) = digitCount m + k := by
  induction k with
  | zero => simp
  | succ k ih =>
    rw [pow_succ, ← mul_assoc, digitCount, toDigits_mul_ten (by positivity), List.length_append,
      ← digitCount, ih]
    rfl

/-- A decimal is rounded as the quotient that it stands for, unless its exponent alone decides. -/
theorem ofScaled_eq {m : Nat} (hm : 0 < m) (negative : Bool) (e : Int) :
    ofScaled negative m e =
      if digitCount m + e < -400 then signed negative 0
      else if digitCount m + e > 400 then signed negative infinityBits
      else ofRatio negative (m * 10 ^ e.toNat) (10 ^ (-e).toNat) := by
  have hratio : (if e ≥ 0 then ofRatio negative (m * tenTo e.toNat) 1
      else ofRatio negative m (tenTo (-e).toNat)) =
        ofRatio negative (m * 10 ^ e.toNat) (10 ^ (-e).toNat) := by
    split
    · have h0 : (-e).toNat = 0 := by omega
      rw [h0, pow_zero, tenTo_eq]
    · have h0 : e.toNat = 0 := by omega
      rw [h0, pow_zero, mul_one, tenTo_eq]
  simp only [ofScaled, hratio, hm.ne', decide_false, Bool.false_or, decide_eq_true_eq]

/-- Zeros at the end of a coefficient count as much as in the exponent. -/
theorem ofScaled_mul_pow (negative : Bool) (m k : Nat) (e : Int) :
    ofScaled negative (m * 10 ^ k) (e - k) = ofScaled negative m e := by
  rcases Nat.eq_zero_or_pos m with rfl | hm
  · simp [ofScaled]
  have htop : (digitCount (m * 10 ^ k) : Int) + (e - k) = digitCount m + e := by
    rw [digitCount_mul_pow hm]
    omega
  have hshift : k + (e - k).toNat + (-e).toNat = e.toNat + (-(e - k)).toNat := by omega
  have hratio : m * 10 ^ k * 10 ^ (e - k).toNat * 10 ^ (-e).toNat =
      m * 10 ^ e.toNat * 10 ^ (-(e - k)).toNat := by
    rw [mul_assoc m, ← pow_add, mul_assoc, ← pow_add, hshift, pow_add, mul_assoc]
  rw [ofScaled_eq (by positivity), ofScaled_eq hm, htop, ofRatio, ofRatio,
    magnitudeBits_congr (by positivity) (by positivity) hratio]

theorem exists_signed_ofScaled (m : Nat) (e : Int) :
    ∃ bits, ∀ negative, ofScaled negative m e = signed negative bits := by
  rcases Nat.eq_zero_or_pos m with rfl | hm
  · exact ⟨0, fun negative => by simp [ofScaled]⟩
  · simp only [ofScaled_eq hm]
    split
    · exact ⟨0, fun _ => rfl⟩
    · split
      · exact ⟨infinityBits, fun _ => rfl⟩
      · exact ⟨_, fun _ => rfl⟩

/-- The sign of a decimal is that of its float; the magnitude does not depend on it. -/
theorem ofScaled_eq_ofRatio {m : Nat} {e : Int} {num den : Nat}
    (h : ofScaled false m e = ofRatio false num den) (negative : Bool) :
    ofScaled negative m e = ofRatio negative num den := by
  obtain ⟨bits, hbits⟩ := exists_signed_ofScaled m e
  rw [hbits] at h
  rw [hbits, ofRatio]
  exact signed_congr h negative

end Scaled

section Shortest

private theorem ofScaled_reduce (negative : Bool) (d : Digits) (fuel : Nat) :
    ofScaled negative (d.reduce fuel).coefficient (d.reduce fuel).exponent =
      ofScaled negative d.coefficient d.exponent := by
  induction fuel generalizing d with
  | zero => rfl
  | succ fuel ih =>
    unfold Digits.reduce
    split
    · next h =>
      have htenth : d.coefficient = d.coefficient / 10 * 10 ^ 1 := by omega
      have hstep := ofScaled_mul_pow negative (d.coefficient / 10) 1 (d.exponent + 1)
      rw [← htenth, Nat.cast_one, add_sub_cancel_right] at hstep
      rw [ih, hstep]
    · rfl

private theorem readsAs_of_searchGrids {num den : Nat} {bits : UInt64} {top : Int}
    {places : List Nat}
    {d : Digits} (h : searchGrids num den bits top places = some d) : d.readsAs bits = true := by
  induction places with
  | nil => cases h
  | cons n places ih =>
    unfold searchGrids at h
    split at h
    · next d' hd =>
      cases h
      exact List.find?_some (p := fun d : Digits => d.readsAs bits) hd
    · exact ih h

private theorem digitCount_shiftLeft_le {m k : Nat} (hm : m < 2 ^ 53) (hk : k < 972) :
    digitCount (m <<< k) ≤ 400 := by
  apply (digitCount_le_iff (by decide)).2
  rw [Nat.shiftLeft_eq]
  calc m * 2 ^ k ≤ 2 ^ 53 * 2 ^ 971 :=
        Nat.mul_le_mul hm.le (Nat.pow_le_pow_right (by decide) (by omega))
    _ < 10 ^ 400 := by decide +kernel

private theorem digitCount_mul_five_le {m : Nat} (hm : m < 2 ^ 53) (k : Nat) :
    digitCount (m * 5 ^ k) ≤ 400 + k := by
  apply (digitCount_le_iff (by omega)).2
  have hfive : 5 ^ k ≤ 10 ^ k := Nat.pow_le_pow_left (by decide) k
  calc m * 5 ^ k < 10 ^ 400 * 10 ^ k :=
        Nat.mul_lt_mul_of_lt_of_le (hm.trans (by decide +kernel)) hfive (by positivity)
    _ = 10 ^ (400 + k) := (pow_add _ _ _).symm

/-- A power of five has at least as many digits as its exponent says, but for a few hundred. -/
theorem le_digitCount_mul_five {m k : Nat} (hm : 0 < m) (hk : k ≤ 1074) :
    k ≤ digitCount (m * 5 ^ k) + 400 := by
  have hcount := digitCount_pos (m * 5 ^ k)
  by_contra hlow
  have hsmall : m * 5 ^ k < 10 ^ (k - 401) := (digitCount_le_iff (by omega)).1 (by omega)
  have hsplit : k - 401 + 401 = k := by omega
  have hfive : 5 ^ (k - 401) * 5 ^ 401 < 5 ^ (k - 401) * 2 ^ 673 :=
    calc 5 ^ (k - 401) * 5 ^ 401 = 5 ^ k := by rw [← pow_add, hsplit]
      _ ≤ m * 5 ^ k := Nat.le_mul_of_pos_left _ hm
      _ < 10 ^ (k - 401) := hsmall
      _ = 5 ^ (k - 401) * 2 ^ (k - 401) := mul_pow 5 2 _
      _ ≤ 5 ^ (k - 401) * 2 ^ 673 := by gcongr <;> omega
  have hcontra : ¬ 5 ^ 401 < 2 ^ 673 := by decide +kernel
  exact hcontra (Nat.lt_of_mul_lt_mul_left hfive)

/-- The exact expansion of a finite float stays within the exponents that are not cut off. -/
theorem digitCount_exactDigits {p : Parts} (hpos : 0 < p.significand)
    (hlt : p.significand < 2 ^ 53) (hge : -1074 ≤ p.exponent) (hle : p.exponent < 972) :
    -400 ≤ digitCount (exactDigits p).coefficient + (exactDigits p).exponent ∧
      digitCount (exactDigits p).coefficient + (exactDigits p).exponent ≤ 400 := by
  unfold exactDigits
  split
  · next he =>
    have hcount : digitCount (p.significand <<< p.exponent.toNat) ≤ 400 :=
      digitCount_shiftLeft_le hlt (by omega)
    dsimp only
    omega
  · next he =>
    have hexp : p.exponent = -((-p.exponent).toNat : Int) := by omega
    have hlow := le_digitCount_mul_five (k := (-p.exponent).toNat) hpos (by omega)
    have hhigh := digitCount_mul_five_le hlt (-p.exponent).toNat
    have hpow : Nat.pow 5 (-p.exponent).toNat = 5 ^ (-p.exponent).toNat := rfl
    dsimp only
    rw [hpow]
    omega

private theorem ofScaled_exactDigits {p : Parts} (hpos : 0 < p.significand)
    (hlt : p.significand < 2 ^ 53) (hge : -1074 ≤ p.exponent) (hle : p.exponent < 972) :
    ofScaled false (exactDigits p).coefficient (exactDigits p).exponent =
      ofRatio false p.ratio.1 p.ratio.2 := by
  obtain ⟨hlow, hhigh⟩ := digitCount_exactDigits hpos hlt hge hle
  have hcoefficient : 0 < (exactDigits p).coefficient := by
    unfold exactDigits
    split
    · rw [Nat.shiftLeft_eq]
      positivity
    · exact Nat.mul_pos hpos (Nat.pow_pos (by decide))
  rw [ofScaled_eq hcoefficient, if_neg (by omega), if_neg (by omega), ratio_eq, ofRatio, ofRatio]
  congr 1
  apply magnitudeBits_congr (by positivity) (by positivity)
  unfold exactDigits
  split
  · next he =>
    have h0 : (-p.exponent).toNat = 0 := by omega
    simp [h0, Nat.shiftLeft_eq]
  · next he =>
    have h0 : p.exponent.toNat = 0 := by omega
    have hpow : Nat.pow 5 (-p.exponent).toNat = 5 ^ (-p.exponent).toNat := rfl
    dsimp only
    rw [h0, hpow, pow_zero, pow_zero, mul_one, mul_one, mul_assoc]
    exact congrArg _ (mul_pow 5 2 _).symm

/-- The shortest digits of a finite float read back as its magnitude. -/
theorem ofScaled_shortest {p : Parts} (hlt : p.significand < 2 ^ 53)
    (hge : -1074 ≤ p.exponent) (hle : p.exponent < 972) :
    ofScaled false (shortest p).coefficient (shortest p).exponent =
      ofRatio false p.ratio.1 p.ratio.2 := by
  rcases Nat.eq_zero_or_pos p.significand with h0 | hpos
  · simp [shortest, h0, ratio_eq, ofScaled, ofRatio, magnitudeBits]
  simp only [shortest, if_neg hpos.ne']
  rw [ofScaled_reduce]
  cases hfound : searchGrids p.ratio.1 p.ratio.2 (ofRatio false p.ratio.1 p.ratio.2).toBits
      (decimalExponent p.ratio.1 p.ratio.2) (List.range 17) with
  | none => exact ofScaled_exactDigits hpos hlt hge hle
  | some d =>
    have hreads := readsAs_of_searchGrids hfound
    rw [Digits.readsAs, beq_iff_eq] at hreads
    exact Float.toBits_inj.1 hreads

end Shortest

end TableAudit.Decimal
