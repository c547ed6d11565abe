import TableAudit.Json.Number
import TableAudit.Proofs.NumberTexts

/-!
# JSON numbers through their texts

The text of a JSON number is a sign and a numeral, with an exponent if the number is very large or
very small. Reading it as a number gives the float that the JSON number stands for.
-/

namespace TableAudit.Decimal

open Text

section Exponents

def exponentPart (e : Int) : List Char :=
  'e' :: (if e < 0 then '-' else '+') :: Nat.toDigits 10 e.natAbs

private theorem readExponent_exponentPart (e : Int) : readExponent (exponentPart e) = some e := by
  have hdigits : (Nat.toDigits 10 e.natAbs).all Char.isDigit = true :=
    List.all_eq_true.2 fun c hc => isDigit_of_mem_toDigits hc
  have hne : (Nat.toDigits 10 e.natAbs).isEmpty = false := by simp [Nat.toDigits_ne_nil]
  have hsign : takeSign ((if e < 0 then '-' else '+') :: Nat.toDigits 10 e.natAbs) =
      (decide (e < 0), Nat.toDigits 10 e.natAbs) := by
    by_cases h : e < 0 <;> simp [h, takeSign]
  simp only [exponentPart, readExponent, beq_self_eq_true, Bool.true_or, if_true, hsign, hdigits,
    hne, digitsValue_toDigits, Bool.not_true, Bool.or_self, Bool.false_eq_true, if_false,
    decide_eq_true_eq]
  split <;> exact congrArg some (by omega)

private theorem not_isBlank_of_mem_exponentPart {e : Int} {c : Char} (h : c ∈ exponentPart e) :
    isBlank c = false := by
  simp only [exponentPart, List.mem_cons] at h
  rcases h with rfl | rfl | h
  · decide
  · split <;> decide
  · exact not_isBlank_of_isDigit (isDigit_of_mem_toDigits h)

end Exponents

section Scientific

variable {d : Digits}

/-- A text reads as a decimal whatever the sign in front of it. -/
def Reads (s : String) (d : Digits) : Prop :=
  ∀ negative, readFloat (trim (sign negative ++ s)) =
    some (ofScaled negative d.coefficient d.exponent)

private theorem reads_of_spellsDigits {s : String} (h : SpellsDigits s d) : Reads s d := by
  obtain ⟨whole, fraction, hn, hs, hvalue⟩ := h
  intro negative
  have hall : (sign negative ++ s).toList =
      signChars negative ++ (numeral whole fraction ++ []) := by
    rw [String.toList_append, toList_sign, hs, List.append_nil]
  rw [trim_numeral hn (by simp) hall, readFloat_numeral hn rfl hall, Int.zero_sub, hvalue]

theorem spellsDigits_point (hexp : 0 ≤ d.exponent) (hpos : d.coefficient ≠ 0) :
    SpellsDigits (d.positional ++ ".0") d := by
  refine ⟨Nat.toDigits 10 d.coefficient ++ List.replicate d.exponent.toNat '0', ['0'],
    ⟨by simp [Nat.toDigits_ne_nil], ?_, by simp⟩, ?_, fun negative => ?_⟩
  · intro c hc
    rcases List.mem_append.1 hc with hc | hc
    · exact isDigit_of_mem_toDigits hc
    · exact isDigit_of_mem_zeros hc
  · have hplain : d.positional = digitText d.coefficient ++ zeros d.exponent.toNat := by
      rw [Digits.positional, if_pos hexp, if_neg hpos]
    rw [hplain, String.toList_append, String.toList_append, toList_digitText, toList_zeros]
    rfl
  · have hzeros : List.replicate d.exponent.toNat '0' ++ ['0'] =
        List.replicate (d.exponent.toNat + 1) '0' := List.replicate_succ'.symm
    have hshift : -((['0'] : List Char).length : Int) =
        d.exponent - (d.exponent.toNat + 1 : Nat) := by
      simp
      omega
    rw [List.append_assoc, hzeros, digitsValue_append_zeros, digitsValue_toDigits, hshift,
      ofScaled_mul_pow]

/-- The first digit, the others behind a point, and an exponent. -/
theorem reads_exponent (c : Char) (rest : List Char)
    (hdigits : Nat.toDigits 10 d.coefficient = c :: rest) {s : String}
    (hs : s.toList = numeral [c] rest ++ exponentPart (rest.length + d.exponent)) :
    Reads s d := by
  intro negative
  have hdigit : ∀ a ∈ c :: rest, a.isDigit = true := fun a ha =>
    isDigit_of_mem_toDigits (hdigits ▸ ha)
  have hn : IsNumeral [c] rest :=
    ⟨by simp, by simpa using hdigit c List.mem_cons_self,
      fun a ha => hdigit a (List.mem_cons_of_mem _ ha)⟩
  have hall : (sign negative ++ s).toList = signChars negative ++
      (numeral [c] rest ++ exponentPart (rest.length + d.exponent)) := by
    rw [String.toList_append, toList_sign, hs]
  have hvalue : digitsValue ([c] ++ rest) = d.coefficient := by
    rw [List.singleton_append, ← hdigits, digitsValue_toDigits]
  have hplaces : (rest.length + d.exponent : Int) - rest.length = d.exponent := by omega
  rw [trim_numeral hn (fun _ => not_isBlank_of_mem_exponentPart) hall,
    readFloat_numeral hn (readExponent_exponentPart _) hall, hvalue, hplaces]

private theorem reads_scientific (d : Digits) : Reads d.scientific d := by
  unfold Digits.scientific
  dsimp only
  split
  · next hzero =>
    have hn : IsNumeral ['0'] ['0'] := ⟨by simp, by simp, by simp⟩
    refine reads_of_spellsDigits ⟨['0'], ['0'], hn, rfl, fun negative => ?_⟩
    simp [hzero, ofScaled, digitsValue]
  · next hpos =>
    split
    · split
      · next hexp => exact reads_of_spellsDigits (spellsDigits_point hexp hpos)
      · exact reads_of_spellsDigits (spellsDigits_positional d)
    · obtain ⟨c, rest, hdigits⟩ := List.exists_cons_of_ne_nil
        (Nat.toDigits_ne_nil (b := 10) (n := d.coefficient))
      have htext : (digitText d.coefficient).toList = c :: rest := by rw [toList_digitText, hdigits]
      have hlength : ((digitText d.coefficient).length : Int) + d.exponent - 1 =
          rest.length + d.exponent := by
        rw [← String.length_toList, htext, List.length_cons]
        omega
      refine reads_exponent c rest hdigits ?_
      rw [hlength, htext]
      generalize (rest.length : Int) + d.exponent = e
      have hexponent : ("e" ++ (if e < 0 then "-" else "+") ++ digitText e.natAbs).toList =
          exponentPart e := by
        rw [exponentPart, ← toList_digitText]
        split <;> simp
      rw [← hexponent, String.append_assoc, String.append_assoc, String.toList_append]
      cases rest <;> simp [numeral, String.append_assoc]

theorem readFloat_jsonText {x : Float} (h : isFinite x = true) {s : String}
    (hs : jsonText x = some s) : readFloat (trim s) = some x := by
  unfold jsonText at hs
  cases hx : Magnitude.ofFloat x with
  | finite p =>
    rw [hx] at hs
    have hspells := spells_ofFloat hx
    have hround := ofScaled_eq_ofRatio
      (ofScaled_shortest hspells.lt hspells.exponent_ge hspells.exponent_lt) p.negative
    rw [← Option.some.inj hs, reads_scientific, hround, ofRatio_ratio hx]
  | infinite negative => simp [isFinite, hx] at h
  | notANumber => simp [isFinite, hx] at h

end Scientific

end TableAudit.Decimal

namespace TableAudit.Json

open Decimal

/-- JSON numbers are integers of at most 64 bits and finite floats. -/
def Number.IsSound : Number → Prop
  | .int n => n.natAbs < 2 ^ 64
  | .float x => isFinite x = true

/-- The text of a JSON number reads as the float that the number stands for, and this is finite. -/
theorem Number.readFloat_text {n : Number} (h : n.IsSound) :
    readFloat (Text.trim n.text) = some n.toFloat ∧ isFinite n.toFloat = true := by
  cases n with
  | int n =>
    have htext : (Number.int n).text = sign (n < 0) ++ digitText n.natAbs := by
      by_cases hn : n < 0 <;> simp [text, sign, hn]
    have hread := cellNumber_digits h
    rw [← htext] at hread
    exact Option.filter_eq_some_iff.1 hread
  | float x =>
    cases hx : Magnitude.ofFloat x with
    | finite p =>
      have htext : jsonText x = some (Number.float x).text := by simp [text, jsonText, hx]
      exact ⟨readFloat_jsonText h htext, h⟩
    | infinite negative => simp [IsSound, isFinite, hx] at h
    | notANumber => simp [IsSound, isFinite, hx] at h

inductive Value.IsSound : Value → Prop
  | null : IsSound .null
  | bool (b : Bool) : IsSound (.bool b)
  | number {n : Number} (h : n.IsSound) : IsSound (.number n)
  | text (s : String) : IsSound (.text s)
  | list {items : List Value} (h : ∀ v ∈ items, v.IsSound) : IsSound (.list items)
  | object {entries : List (String × Value)} (h : ∀ e ∈ entries, e.2.IsSound) :
    IsSound (.object entries)

end TableAudit.Json
