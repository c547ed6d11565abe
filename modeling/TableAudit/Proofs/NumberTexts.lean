import TableAudit.Decimal.Layout
import TableAudit.Decimal.Reading
import TableAudit.Proofs.ShortestDigits
import TableAudit.Proofs.Stripping

/-!
# Numbers through their texts

The text of a number in a data cell is a sign and a numeral: digits, with a point and a fraction
where they are needed. Reading it gives the number back, bit by bit, the sign of zero included. What
is no finite number has a text that is no number.
-/

namespace TableAudit.Decimal

open Text

section Digits

private theorem digitsValue_eq (cs : List Char) : digitsValue cs = Nat.ofDigitChars 10 cs 0 := rfl

theorem digitsValue_toDigits (n : Nat) : digitsValue (Nat.toDigits 10 n) = n :=
  Nat.ofDigitChars_ten_toDigits

theorem digitsValue_append_zeros (cs : List Char) (k : Nat) :
    digitsValue (cs ++ List.replicate k '0') = digitsValue cs * 10 ^ k := by
  simp only [digitsValue_eq, Nat.ofDigitChars_append, Nat.ofDigitChars_replicate_zero, Nat.mul_comm]

theorem digitsValue_zeros_append (k : Nat) (cs : List Char) :
    digitsValue (List.replicate k '0' ++ cs) = digitsValue cs := by
  simp only [digitsValue_eq, Nat.ofDigitChars_append, Nat.ofDigitChars_replicate_zero, Nat.mul_zero]

theorem isDigit_of_mem_toDigits {n : Nat} {c : Char} (h : c ∈ Nat.toDigits 10 n) :
    c.isDigit = true :=
  Nat.isDigit_of_mem_toDigits (by decide) (by decide) h

theorem isDigit_of_mem_zeros {k : Nat} {c : Char} (h : c ∈ List.replicate k '0') :
    c.isDigit = true := by
  rw [List.eq_of_mem_replicate h]
  rfl

theorem bounds_of_isDigit {c : Char} (h : c.isDigit = true) : 48 ≤ c.toNat ∧ c.toNat ≤ 57 := by
  simp only [Char.isDigit, Bool.and_eq_true, decide_eq_true_eq, ge_iff_le] at h
  exact ⟨h.1, h.2⟩

private theorem toLower_of_isDigit {c : Char} (h : c.isDigit = true) : c.toLower = c := by
  have hbounds := bounds_of_isDigit h
  unfold Char.toLower
  apply dif_neg
  rintro ⟨hlow, -⟩
  have hlow : 65 ≤ c.toNat := UInt32.le_iff_toNat_le.1 hlow
  omega

theorem not_isBlank_of_isDigit {c : Char} (h : c.isDigit = true) : isBlank c = false := by
  have hbounds := bounds_of_isDigit h
  simp [isBlank]
  omega

theorem takeDigits_append {ds rest : List Char} (hds : ∀ c ∈ ds, c.isDigit = true)
    (hrest : ∀ c ∈ rest.head?, c.isDigit = false) : takeDigits (ds ++ rest) = (ds, rest) := by
  have hstop : rest.takeWhile Char.isDigit = [] ∧ rest.dropWhile Char.isDigit = rest := by
    cases rest with
    | nil => exact ⟨rfl, rfl⟩
    | cons c rest =>
      have hc := hrest c rfl
      simp [hc]
  rw [takeDigits, List.takeWhile_append_of_pos hds, List.dropWhile_append_of_pos hds, hstop.1,
    hstop.2, List.append_nil]

end Digits

section Signs

theorem takeSign_of_digit {c : Char} {cs : List Char} (h : c.isDigit = true) :
    takeSign (c :: cs) = (false, c :: cs) := by
  have hbounds := bounds_of_isDigit h
  unfold takeSign
  split
  · next hc => cases hc; simp at hbounds
  · next hc => cases hc; simp at hbounds
  · rfl

theorem readNamed_cons {c : Char} (hi : c.toLower ≠ 'i') (hn : c.toLower ≠ 'n') (cs : List Char)
    (negative : Bool) : readNamed negative (c :: cs) = none := by
  have hname : ∀ name : String, name.toList.head? ≠ some c.toLower →
      (String.ofList ((c :: cs).map Char.toLower) == name) = false := by
    intro name hhead
    rw [beq_eq_false_iff_ne]
    rintro rfl
    exact hhead (by simp)
  simp only [readNamed, hname "inf" (by simp [hi.symm]), hname "infinity" (by simp [hi.symm]),
    hname "nan" (by simp [hn.symm])]
  rfl

theorem readNamed_of_digit {c : Char} (h : c.isDigit = true) (cs : List Char) (negative : Bool) :
    readNamed negative (c :: cs) = none := by
  have hne : ∀ d : Char, d.isDigit = false → c.toLower ≠ d := by
    intro d hd
    rw [toLower_of_isDigit h]
    rintro rfl
    rw [h] at hd
    cases hd
  exact readNamed_cons (hne 'i' rfl) (hne 'n' rfl) cs negative

end Signs

section Numerals

def numeral (whole fraction : List Char) : List Char :=
  if fraction = [] then whole else whole ++ '.' :: fraction

/-- Both parts are made of digits, and there is something before the point. -/
structure IsNumeral (whole fraction : List Char) : Prop where
  ne_nil : whole ≠ []
  whole : ∀ c ∈ whole, c.isDigit = true
  fraction : ∀ c ∈ fraction, c.isDigit = true

variable {whole fraction : List Char}

theorem IsNumeral.exists_cons (h : IsNumeral whole fraction) :
    ∃ c cs, numeral whole fraction = c :: cs ∧ c.isDigit = true := by
  obtain ⟨c, rest, rfl⟩ := List.exists_cons_of_ne_nil h.ne_nil
  have hc := h.whole c List.mem_cons_self
  unfold numeral
  split
  · exact ⟨c, rest, rfl, hc⟩
  · exact ⟨c, _, rfl, hc⟩

theorem IsNumeral.not_isBlank (h : IsNumeral whole fraction) {c : Char}
    (hc : c ∈ numeral whole fraction) : isBlank c = false := by
  unfold numeral at hc
  split at hc
  · exact not_isBlank_of_isDigit (h.whole c hc)
  · simp only [List.mem_append, List.mem_cons] at hc
    rcases hc with hc | rfl | hc
    · exact not_isBlank_of_isDigit (h.whole c hc)
    · decide
    · exact not_isBlank_of_isDigit (h.fraction c hc)

theorem not_isDigit_of_readExponent {tail : List Char} {e : Int} (h : readExponent tail = some e) :
    ∀ c ∈ tail.head?, c.isDigit = false ∧ c ≠ '.' := by
  intro c hc
  cases tail with
  | nil => cases hc
  | cons d cs =>
    obtain rfl : d = c := Option.some.inj hc
    have hletter : d = 'e' ∨ d = 'E' := by
      simp only [readExponent, Bool.or_eq_true, beq_iff_eq] at h
      split at h
      · assumption
      · cases h
    rcases hletter with rfl | rfl <;> decide

theorem readUnsigned_numeral (h : IsNumeral whole fraction) {tail : List Char} {e : Int}
    (htail : readExponent tail = some e) :
    readUnsigned (numeral whole fraction ++ tail) =
      some (digitsValue (whole ++ fraction), e - fraction.length) := by
  have hhead := not_isDigit_of_readExponent htail
  have hwhole : whole.isEmpty = false := by simpa using h.ne_nil
  by_cases hf : fraction = []
  · subst hf
    have htake : takeDigits (whole ++ tail) = (whole, tail) :=
      takeDigits_append h.whole fun c hc => (hhead c hc).1
    simp only [numeral, if_true, readUnsigned, htake]
    split
    · exact ((hhead '.' rfl).2 rfl).elim
    · simp [hwhole, htail]
  · have htake : takeDigits (whole ++ '.' :: (fraction ++ tail)) =
        (whole, '.' :: (fraction ++ tail)) := takeDigits_append h.whole (by simp)
    have hrest : takeDigits (fraction ++ tail) = (fraction, tail) :=
      takeDigits_append h.fraction fun c hc => (hhead c hc).1
    simp [numeral, hf, readUnsigned, htake, hrest, htail, h.ne_nil]

def signChars (negative : Bool) : List Char := if negative then ['-'] else []

theorem toList_sign (negative : Bool) : (sign negative).toList = signChars negative := by
  cases negative <;> rfl

/-- A signed numeral with an exponent reads as the decimal that it spells. -/
theorem readFloat_numeral (h : IsNumeral whole fraction) {tail : List Char} {e : Int}
    (htail : readExponent tail = some e) {negative : Bool} {s : String}
    (hs : s.toList = signChars negative ++ (numeral whole fraction ++ tail)) :
    readFloat s =
      some (ofScaled negative (digitsValue (whole ++ fraction)) (e - fraction.length)) := by
  have hread := readUnsigned_numeral h htail
  obtain ⟨c, cs, hcs, hc⟩ := h.exists_cons
  have hsign : takeSign s.toList = (negative, c :: (cs ++ tail)) := by
    rw [hs, hcs]
    cases negative with
    | true => rfl
    | false => exact takeSign_of_digit hc
  rw [hcs, List.cons_append] at hread
  simp only [readFloat, hsign, readNamed_of_digit hc, hread, Option.map_some]

theorem trim_numeral (h : IsNumeral whole fraction) {tail : List Char}
    (htail : ∀ c ∈ tail, isBlank c = false) {negative : Bool} {s : String}
    (hs : s.toList = signChars negative ++ (numeral whole fraction ++ tail)) : trim s = s := by
  have hblank : ∀ c ∈ s.toList, isBlank c = false := by
    intro c hc
    rw [hs, List.mem_append, List.mem_append] at hc
    rcases hc with hc | hc | hc
    · cases negative with
      | true =>
        cases List.mem_singleton.1 hc
        decide
      | false => cases hc
    · exact h.not_isBlank hc
    · exact htail c hc
  exact trim_eq_self (fun c hc => hblank c (List.mem_of_mem_head? hc))
    (fun c hc => hblank c (List.mem_of_mem_getLast? hc))

end Numerals

section Layout

private theorem isNumeral_toDigits (n : Nat) : IsNumeral (Nat.toDigits 10 n) [] where
  ne_nil := Nat.toDigits_ne_nil
  whole _ h := isDigit_of_mem_toDigits h
  fraction _ h := by cases h

theorem toList_digitText (n : Nat) : (digitText n).toList = Nat.toDigits 10 n :=
  String.toList_ofList

theorem toList_zeros (n : Nat) : (zeros n).toList = List.replicate n '0' := String.toList_ofList

/-- A text is a numeral for a decimal: as a decimal it rounds to the same float. -/
def SpellsDigits (s : String) (d : Digits) : Prop :=
  ∃ whole fraction, IsNumeral whole fraction ∧ s.toList = numeral whole fraction ∧
    ∀ negative, ofScaled negative (digitsValue (whole ++ fraction)) (-fraction.length) =
      ofScaled negative d.coefficient d.exponent

private theorem spellsDigits_whole {d : Digits} (h : 0 ≤ d.exponent) : SpellsDigits
    (if d.coefficient = 0 then "0" else digitText d.coefficient ++ zeros d.exponent.toNat) d := by
  split
  · next h0 =>
    refine ⟨['0'], [], ⟨by simp, by simp, by simp⟩, rfl, fun negative => ?_⟩
    simp [h0, ofScaled, digitsValue]
  · refine ⟨Nat.toDigits 10 d.coefficient ++ List.replicate d.exponent.toNat '0', [],
      ⟨by simp, ?_, by simp⟩, ?_, fun negative => ?_⟩
    · intro c hc
      rcases List.mem_append.1 hc with hc | hc
      · exact isDigit_of_mem_toDigits hc
      · exact isDigit_of_mem_zeros hc
    · rw [String.toList_append, toList_digitText, toList_zeros]
      rfl
    · have hshift : -(([] : List Char).length : Int) = d.exponent - d.exponent.toNat := by
        simp
        omega
      rw [List.append_nil, digitsValue_append_zeros, digitsValue_toDigits, hshift, ofScaled_mul_pow]

theorem spellsDigits_fraction {d : Digits} {whole fraction : List Char} {s : String}
    (hs : s.toList = whole ++ '.' :: fraction) (hn : IsNumeral whole fraction)
    (hvalue : digitsValue (whole ++ fraction) = d.coefficient)
    (hplaces : d.exponent = -(fraction.length : Int)) (hneg : d.exponent < 0) :
    SpellsDigits s d := by
  have hne : fraction ≠ [] := by
    rintro rfl
    simp [hplaces] at hneg
  refine ⟨whole, fraction, hn, ?_, fun negative => ?_⟩
  · rw [numeral, if_neg hne, hs]
  · rw [hvalue, hplaces]

theorem spellsDigits_within {d : Digits} {places : Nat} (hplaces : d.exponent = -(places : Int))
    (hpos : 0 < places) (hlong : places < (Nat.toDigits 10 d.coefficient).length) : SpellsDigits
      (String.ofList ((Nat.toDigits 10 d.coefficient).take
          ((Nat.toDigits 10 d.coefficient).length - places)) ++ "." ++
        String.ofList ((Nat.toDigits 10 d.coefficient).drop
          ((Nat.toDigits 10 d.coefficient).length - places))) d := by
  generalize hfront : (Nat.toDigits 10 d.coefficient).length - places = front
  have htext : ∀ whole fraction : List Char,
      (String.ofList whole ++ "." ++ String.ofList fraction).toList =
        whole ++ '.' :: fraction := by simp
  have hwhole : (Nat.toDigits 10 d.coefficient).take front ≠ [] := by
    simp [Nat.toDigits_ne_nil]
    omega
  refine spellsDigits_fraction (htext _ _) ⟨hwhole, ?_, ?_⟩ ?_ ?_ (by omega)
  · exact fun c hc => isDigit_of_mem_toDigits (List.mem_of_mem_take hc)
  · exact fun c hc => isDigit_of_mem_toDigits (List.mem_of_mem_drop hc)
  · rw [List.take_append_drop, digitsValue_toDigits]
  · rw [List.length_drop]
    omega

/-- The point stands in front of the digits, with zeros between. -/
theorem spellsDigits_below {d : Digits} {places : Nat} (hplaces : d.exponent = -(places : Int))
    (hpos : 0 < places) (hshort : (Nat.toDigits 10 d.coefficient).length ≤ places) : SpellsDigits
      ("0." ++ zeros (places - (Nat.toDigits 10 d.coefficient).length) ++
        digitText d.coefficient) d := by
  generalize hpad : places - (Nat.toDigits 10 d.coefficient).length = pad
  have htext : ("0." ++ zeros pad ++ digitText d.coefficient).toList =
      ['0'] ++ '.' :: (List.replicate pad '0' ++ Nat.toDigits 10 d.coefficient) := by
    simp [toList_digitText, toList_zeros]
  have hzeros : ['0'] ++ List.replicate pad '0' = List.replicate (pad + 1) '0' := rfl
  refine spellsDigits_fraction htext ⟨by simp, by simp, ?_⟩ ?_ ?_ (by omega)
  · intro c hc
    rcases List.mem_append.1 hc with hc | hc
    · exact isDigit_of_mem_zeros hc
    · exact isDigit_of_mem_toDigits hc
  · rw [← List.append_assoc, hzeros, digitsValue_zeros_append, digitsValue_toDigits]
  · rw [List.length_append, List.length_replicate]
    omega

/-- Digits laid out with the point in its place spell the decimal that they stand for. -/
theorem spellsDigits_positional (d : Digits) : SpellsDigits d.positional d := by
  unfold Digits.positional
  dsimp only
  split
  · next h => exact spellsDigits_whole h
  · next h =>
    have hplaces : d.exponent = -((-d.exponent).toNat : Int) := by omega
    have hpos : 0 < (-d.exponent).toNat := by omega
    rw [toList_digitText]
    split
    · next hlong => exact spellsDigits_within hplaces hpos hlong
    · next hshort => exact spellsDigits_below hplaces hpos (Nat.le_of_not_lt hshort)

end Layout

section Trimming

/-- A fraction is what is left of it without the zeros at its end, and these. -/
theorem exists_trimmed (fraction : List Char) :
    ∃ k, fraction = (fraction.reverse.dropWhile (· == '0')).reverse ++ List.replicate k '0' := by
  refine ⟨(fraction.reverse.takeWhile (· == '0')).length, ?_⟩
  have hzeros : fraction.reverse.takeWhile (· == '0') =
      List.replicate (fraction.reverse.takeWhile (· == '0')).length '0' := by
    rw [List.eq_replicate_iff]
    refine ⟨rfl, fun c hc => ?_⟩
    simpa using List.all_eq_true.1 List.all_takeWhile c hc
  have hsplit := congrArg List.reverse
    (List.takeWhile_append_dropWhile (p := (· == '0')) (l := fraction.reverse))
  rw [List.reverse_append, List.reverse_reverse, hzeros, List.reverse_replicate] at hsplit
  exact hsplit.symm

theorem not_point_of_isDigit {c : Char} (h : c.isDigit = true) : c ≠ '.' := by
  rintro rfl
  cases h

private theorem not_point_of_mem_sign {negative : Bool} {c : Char} (h : c ∈ signChars negative) :
    c ≠ '.' := by
  rintro rfl
  cases negative with
  | true => cases List.mem_singleton.1 h
  | false => cases h

/-- Behind the point only zeros are dropped, and the point goes with the last of them. -/
theorem toList_trimFraction_point {s : String} {front fraction : List Char}
    (hfraction : ∀ c ∈ fraction, c.isDigit = true) (hs : s.toList = front ++ '.' :: fraction) :
    (trimFraction s).toList = numeral front (fraction.reverse.dropWhile (· == '0')).reverse := by
  have hpoint : s.toList.contains '.' = true := by simp [hs]
  have hstop : ('.' :: front.reverse).dropWhile (· == '0') = '.' :: front.reverse := rfl
  have hdrop : s.toList.reverse.dropWhile (· == '0') =
      fraction.reverse.dropWhile (· == '0') ++ '.' :: front.reverse := by
    have hreverse : s.toList.reverse = fraction.reverse ++ '.' :: front.reverse := by simp [hs]
    rw [hreverse, List.dropWhile_append, hstop]
    split
    · next h => rw [List.isEmpty_iff.1 h, List.nil_append]
    · rfl
  rw [trimFraction, if_pos hpoint, hdrop]
  cases hkept : fraction.reverse.dropWhile (· == '0') with
  | nil => simp [numeral]
  | cons c cs =>
    have hmem : c ∈ fraction := by
      have hsuffix := (List.dropWhile_suffix (· == '0') (l := fraction.reverse)).subset
      exact List.mem_reverse.1 (hsuffix (hkept ▸ List.mem_cons_self))
    have hne := not_point_of_isDigit (hfraction c hmem)
    simp [numeral, hne]

/-- Trimming a signed numeral takes zeros from the end of its fraction. -/
theorem toList_trimFraction {negative : Bool} {whole fraction : List Char}
    (h : IsNumeral whole fraction) {s : String}
    (hs : s.toList = signChars negative ++ numeral whole fraction) :
    (trimFraction s).toList = signChars negative ++
      numeral whole (fraction.reverse.dropWhile (· == '0')).reverse := by
  by_cases hf : fraction = []
  · subst hf
    rw [numeral, if_pos rfl] at hs
    have hpoint : ¬ s.toList.contains '.' = true := by
      rw [List.contains_iff_mem, hs]
      intro hc
      rcases List.mem_append.1 hc with hc | hc
      · exact not_point_of_mem_sign hc rfl
      · exact not_point_of_isDigit (h.whole _ hc) rfl
    rw [trimFraction, if_neg hpoint, hs]
    rfl
  · rw [numeral, if_neg hf, ← List.append_assoc] at hs
    rw [toList_trimFraction_point h.fraction hs]
    unfold numeral
    split
    · rfl
    · rw [List.append_assoc]

end Trimming

section Cells

variable {negative : Bool} {whole fraction : List Char}

theorem cellNumber_numeral (h : IsNumeral whole fraction) {s : String}
    (hs : s.toList = signChars negative ++ numeral whole fraction) :
    cellNumber s = (some (ofScaled negative (digitsValue (whole ++ fraction))
      (-fraction.length))).filter isFinite := by
  have hall : s.toList = signChars negative ++ (numeral whole fraction ++ []) := by simpa using hs
  rw [cellNumber, trim_numeral h (by simp) hall, readFloat_numeral h rfl hall, Int.zero_sub]

private theorem isNumeral_append_zeros {k : Nat}
    (h : IsNumeral whole (fraction ++ List.replicate k '0')) :
    IsNumeral whole fraction where
  ne_nil := h.ne_nil
  whole := h.whole
  fraction c hc := h.fraction c (List.mem_append_left _ hc)

/-- Zeros at the end of a fraction do not change the number that is read. -/
theorem ofScaled_append_zeros (k : Nat) :
    ofScaled negative (digitsValue (whole ++ (fraction ++ List.replicate k '0')))
        (-(fraction ++ List.replicate k '0').length) =
      ofScaled negative (digitsValue (whole ++ fraction)) (-fraction.length) := by
  have hshift :
      -((fraction ++ List.replicate k '0').length : Int) = -(fraction.length : Int) - k := by
    rw [List.length_append, List.length_replicate]
    omega
  rw [← List.append_assoc, digitsValue_append_zeros, hshift, ofScaled_mul_pow]

theorem isFinite_of_finite {x : Float} {p : Parts} (h : Magnitude.ofFloat x = .finite p) :
    isFinite x = true := by
  rw [isFinite, h]

theorem cellNumber_cellText_of_finite {x : Float} {p : Parts}
    (h : Magnitude.ofFloat x = .finite p) : cellNumber (cellText x) = some x := by
  obtain ⟨whole, fraction, hn, hs, hvalue⟩ := spellsDigits_positional (shortest p)
  have hspells := spells_ofFloat h
  have hround := ofScaled_eq_ofRatio
    (ofScaled_shortest hspells.lt hspells.exponent_ge hspells.exponent_lt) p.negative
  have hplain : (plain x).toList = signChars p.negative ++ numeral whole fraction := by
    simp only [plain, h]
    rw [String.toList_append, toList_sign, hs]
  have htext := toList_trimFraction hn hplain
  obtain ⟨k, hk⟩ := exists_trimmed fraction
  generalize (fraction.reverse.dropWhile (· == '0')).reverse = trimmed at htext hk
  subst hk
  rw [cellText, cellNumber_numeral (isNumeral_append_zeros hn) htext,
    ← ofScaled_append_zeros k, hvalue, hround, ofRatio_ratio h]
  exact Option.filter_some_pos (isFinite_of_finite h)

/-- The text of a number reads as that number if it is finite; else it is no number. -/
theorem cellNumber_cellText (x : Float) :
    cellNumber (cellText x) = (some x).filter isFinite := by
  cases h : Magnitude.ofFloat x with
  | finite p =>
    rw [cellNumber_cellText_of_finite h]
    exact (Option.filter_some_pos (isFinite_of_finite h)).symm
  | infinite negative =>
    have hx : (some x).filter isFinite = none := by simp [isFinite, h]
    have htext : cellText x = trimFraction (sign negative ++ "inf") := by
      simp only [cellText, plain, h]
    rw [hx, htext]
    cases negative <;> decide +kernel
  | notANumber =>
    have hx : (some x).filter isFinite = none := by simp [isFinite, h]
    have htext : cellText x = trimFraction "NaN" := by simp only [cellText, plain, h]
    rw [hx, htext]
    decide +kernel

theorem ofScaled_zero_exponent {m : Nat} (h : m < 2 ^ 64) (negative : Bool) :
    ofScaled negative m 0 = ofRatio negative m 1 := by
  rcases Nat.eq_zero_or_pos m with rfl | hm
  · rfl
  · have hcount : digitCount m ≤ 20 :=
      (digitCount_le_iff (by decide)).2 (Nat.lt_of_lt_of_le h (by decide))
    rw [ofScaled_eq hm, if_neg (by omega), if_neg (by omega)]
    simp

/-- An integer of one machine word is written in digits and read as the float nearest to it. -/
theorem cellNumber_digits {n : Int} (h : n.natAbs < 2 ^ 64) :
    cellNumber (sign (n < 0) ++ digitText n.natAbs) = some (ofInt n) := by
  have hn := isNumeral_toDigits n.natAbs
  have hs : (sign (n < 0) ++ digitText n.natAbs).toList =
      signChars (n < 0) ++ numeral (Nat.toDigits 10 n.natAbs) [] := by
    rw [String.toList_append, toList_sign, toList_digitText]
    rfl
  have hvalue : ofScaled (n < 0) (digitsValue (Nat.toDigits 10 n.natAbs ++ []))
      (-([] : List Char).length) = ofInt n := by
    rw [List.append_nil, digitsValue_toDigits]
    exact ofScaled_zero_exponent h _
  rw [cellNumber_numeral hn hs, hvalue]
  exact Option.filter_some_pos (isFinite_signed (magnitudeBits_lt h) _)

end Cells

end TableAudit.Decimal
