import TableAudit.Text.Utf8

/-!
# Texts through UTF-8

Decoding the bytes of a text gives the text back. A byte below 128 stands for itself and never
occurs inside the encoding of another character, so separators can be looked for byte by byte.
-/

namespace TableAudit.Text

section Bytes

private theorem toList_loop (bytes : ByteArray) (i : Nat) (read : List UInt8) :
    ByteArray.toList.loop bytes i read = read.reverse ++ bytes.data.toList.drop i := by
  fun_induction ByteArray.toList.loop bytes i read with
  | case1 i read hi ih =>
    have hlt : i < bytes.data.toList.length := by simpa using hi
    rw [ih, List.drop_eq_getElem_cons hlt]
    simp [ByteArray.get!, hi]
  | case2 i read hi =>
    rw [List.drop_eq_nil_of_le (by simpa using Nat.le_of_not_lt hi)]
    simp

/-- A text is encoded character by character. -/
theorem encodeUtf8_eq_flatMap (s : String) :
    encodeUtf8 s = s.toList.flatMap String.utf8EncodeChar := by
  have hbytes : s.toByteArray.data.toList = s.toList.flatMap String.utf8EncodeChar := by
    rw [← String.utf8Encode_toList, List.utf8Encode, List.toList_data_toByteArray]
  rw [encodeUtf8, String.toUTF8, ByteArray.toList, toList_loop, hbytes]
  rfl

@[simp] theorem encodeUtf8_empty : encodeUtf8 "" = [] := by
  rw [encodeUtf8_eq_flatMap]
  rfl

@[simp] theorem encodeUtf8_append (s t : String) :
    encodeUtf8 (s ++ t) = encodeUtf8 s ++ encodeUtf8 t := by
  simp [encodeUtf8_eq_flatMap]

theorem encodeUtf8_join (ss : List String) :
    encodeUtf8 (String.join ss) = ss.flatMap encodeUtf8 := by
  induction ss with
  | nil => simp
  | cons s ss ih => rw [String.join_cons, encodeUtf8_append, ih, List.flatMap_cons]

theorem encodeUtf8_intercalate (separator : String) (ss : List String) :
    encodeUtf8 (separator.intercalate ss) =
      (encodeUtf8 separator).intercalate (ss.map encodeUtf8) := by
  induction ss with
  | nil => simp
  | cons s ss ih =>
    cases ss with
    | nil => simp
    | cons t ss =>
      simp only [String.intercalate_cons_cons, encodeUtf8_append, ih, List.map_cons,
        List.intercalate_cons_cons]

theorem encodeUtf8_eq_nil {s : String} : encodeUtf8 s = [] ↔ s = "" := by
  rw [encodeUtf8_eq_flatMap, List.flatMap_eq_nil_iff, ← String.toList_eq_nil_iff]
  constructor
  · intro h
    rw [List.eq_nil_iff_forall_not_mem]
    exact fun c hc => String.utf8EncodeChar_ne_nil (h c hc)
  · rintro h c hc
    simp [h] at hc

end Bytes

section Characters

private theorem toNat_ofNat_byte {n : Nat} (h : n < 256) : (UInt8.ofNat n).toNat = n := by
  simp
  omega

private theorem continuation_ofNat {n : Nat} (h : n < 64) :
    isContinuation (UInt8.ofNat (n + 128)) = true ∧ payload (UInt8.ofNat (n + 128)) = n := by
  have hn : (UInt8.ofNat (n + 128)).toNat = n + 128 := toNat_ofNat_byte (by omega)
  constructor
  · simp only [isContinuation, UInt8.le_iff_toNat_le, UInt8.lt_iff_toNat_lt, hn]
    simp
    omega
  · simp only [payload, hn]
    omega

private theorem decodeChar_one {a : Nat} (ha : a < 128) (rest : List UInt8) :
    decodeChar (UInt8.ofNat a :: rest) = some (Char.ofNat a, rest) := by
  have hn : (UInt8.ofNat a).toNat = a := toNat_ofNat_byte (by omega)
  have hlt : UInt8.ofNat a < 0x80 := by
    rw [UInt8.lt_iff_toNat_lt, hn]
    exact ha
  simp only [decodeChar, if_pos hlt, hn]

private theorem decodeChar_two {v a b : Nat} (ha : 2 ≤ a) (ha' : a < 32) (hb : b < 64)
    (hv : a * 64 + b = v) (rest : List UInt8) :
    decodeChar (UInt8.ofNat (a + 192) :: UInt8.ofNat (b + 128) :: rest) =
      some (Char.ofNat v, rest) := by
  have hn : (UInt8.ofNat (a + 192)).toNat = a + 192 := toNat_ofNat_byte (by omega)
  obtain ⟨hbc, hbp⟩ := continuation_ofNat hb
  simp only [decodeChar, UInt8.le_iff_toNat_le, UInt8.lt_iff_toNat_lt, hn, hbc, hbp]
  rw [if_neg (by simp), if_neg (by simp), if_pos (by simp; omega)]
  simp [hv]

private theorem decodeChar_three {v a b c : Nat} (ha : a < 16) (hb : b < 64) (hc : c < 64)
    (hv : (a * 64 + b) * 64 + c = v) (hmin : 0x800 ≤ v) (hs : v < 0xd800 ∨ 0xe000 ≤ v)
    (rest : List UInt8) :
    decodeChar (UInt8.ofNat (a + 224) :: UInt8.ofNat (b + 128) :: UInt8.ofNat (c + 128) :: rest) =
      some (Char.ofNat v, rest) := by
  have hn : (UInt8.ofNat (a + 224)).toNat = a + 224 := toNat_ofNat_byte (by omega)
  obtain ⟨hbc, hbp⟩ := continuation_ofNat hb
  obtain ⟨hcc, hcp⟩ := continuation_ofNat hc
  simp only [decodeChar, UInt8.le_iff_toNat_le, UInt8.lt_iff_toNat_lt, hn, hbc, hbp, hcc, hcp]
  rw [if_neg (by simp), if_neg (by simp), if_neg (by simp), if_neg (by simp),
    if_pos (by simp; omega)]
  simp [hv]
  omega

private theorem decodeChar_four {v a b c d : Nat} (ha : a < 5) (hb : b < 64) (hc : c < 64)
    (hd : d < 64) (hv : ((a * 64 + b) * 64 + c) * 64 + d = v) (hmin : 0x10000 ≤ v)
    (hmax : v < 0x110000) (rest : List UInt8) :
    decodeChar (UInt8.ofNat (a + 240) :: UInt8.ofNat (b + 128) :: UInt8.ofNat (c + 128) ::
        UInt8.ofNat (d + 128) :: rest) = some (Char.ofNat v, rest) := by
  have hn : (UInt8.ofNat (a + 240)).toNat = a + 240 := toNat_ofNat_byte (by omega)
  obtain ⟨hbc, hbp⟩ := continuation_ofNat hb
  obtain ⟨hcc, hcp⟩ := continuation_ofNat hc
  obtain ⟨hdc, hdp⟩ := continuation_ofNat hd
  simp only [decodeChar, UInt8.le_iff_toNat_le, UInt8.lt_iff_toNat_lt, hn, hbc, hbp, hcc, hcp,
    hdc, hdp]
  rw [if_neg (by simp), if_neg (by simp), if_neg (by simp), if_neg (by simp), if_neg (by simp),
    if_neg (by simp), if_pos (by simp; omega)]
  simp [hv]
  omega

theorem decodeChar_utf8EncodeChar (c : Char) (rest : List UInt8) :
    decodeChar (String.utf8EncodeChar c ++ rest) = some (c, rest) := by
  have hv : c.toNat.isValidChar := c.valid
  have hc : some (Char.ofNat c.toNat, rest) = some (c, rest) := by rw [Char.ofNat_toNat]
  have hval : c.val.toNat = c.toNat := rfl
  rw [← hc]
  simp only [String.utf8EncodeChar, hval]
  generalize c.toNat = v at hv
  split
  · exact decodeChar_one (by omega) rest
  split
  · exact decodeChar_two (by omega) (by omega) (by omega) (by omega) rest
  have hscalar : v < 0xd800 ∨ 0xdfff < v ∧ v < 0x110000 := hv
  split
  · exact decodeChar_three (by omega) (by omega) (by omega) (by omega) (by omega) (by omega) rest
  · exact decodeChar_four (by omega) (by omega) (by omega) (by omega) (by omega) (by omega)
      (by omega) rest

theorem utf8EncodeChar_ofNat {b : UInt8} (hb : b < 128) :
    String.utf8EncodeChar (Char.ofNat b.toNat) = [b] := by
  have hlt : b.toNat < 128 := hb
  have hvalid : b.toNat.isValidChar := .inl (by omega)
  have hval : (Char.ofNat b.toNat).val.toNat = b.toNat := by
    rw [Char.ofNat, dif_pos hvalid]
    rfl
  simp only [String.utf8EncodeChar, hval]
  rw [if_pos (by omega), UInt8.ofNat_toNat]

/-- It occurs in no other encoding. -/
theorem mem_utf8EncodeChar {b : UInt8} (hb : b < 128) {c : Char} :
    b ∈ String.utf8EncodeChar c ↔ c = Char.ofNat b.toNat := by
  have hlt : b.toNat < 128 := hb
  constructor
  · intro h
    have htail : ∀ n, 128 ≤ n → n < 256 → b ≠ UInt8.ofNat n := by
      rintro n hn hn' rfl
      rw [toNat_ofNat_byte hn'] at hlt
      omega
    simp only [String.utf8EncodeChar] at h
    split at h
    · obtain rfl := List.mem_singleton.1 h
      rw [toNat_ofNat_byte (by omega)]
      exact (Char.ofNat_toNat c).symm
    · split at h
      · simp only [List.mem_cons, List.not_mem_nil, or_false] at h
        rcases h with h | h <;> exact (htail _ (by omega) (by omega) h).elim
      split at h
      · simp only [List.mem_cons, List.not_mem_nil, or_false] at h
        rcases h with h | h | h <;> exact (htail _ (by omega) (by omega) h).elim
      · simp only [List.mem_cons, List.not_mem_nil, or_false] at h
        rcases h with h | h | h | h <;> exact (htail _ (by omega) (by omega) h).elim
  · rintro rfl
    simp [utf8EncodeChar_ofNat hb]

theorem mem_encodeUtf8 {b : UInt8} (hb : b < 128) {s : String} :
    b ∈ encodeUtf8 s ↔ Char.ofNat b.toNat ∈ s.toList := by
  simp only [encodeUtf8_eq_flatMap, List.mem_flatMap, mem_utf8EncodeChar hb]
  exact ⟨by rintro ⟨c, hc, rfl⟩; exact hc, fun h => ⟨_, h, rfl⟩⟩

end Characters

section Texts

private theorem decodeFrom_encoded (cs : List Char) {fuel : Nat}
    (h : (cs.flatMap String.utf8EncodeChar).length ≤ fuel) (position : Nat) :
    decodeFrom fuel position (cs.flatMap String.utf8EncodeChar) = .ok cs := by
  induction cs generalizing fuel position with
  | nil => simp [decodeFrom]
  | cons c cs ih =>
    rw [List.flatMap_cons] at h ⊢
    obtain ⟨b, bs, hbs⟩ := List.exists_cons_of_ne_nil (String.utf8EncodeChar_ne_nil (c := c))
    have hdec := decodeChar_utf8EncodeChar c (cs.flatMap String.utf8EncodeChar)
    rw [hbs, List.cons_append] at h hdec ⊢
    cases fuel with
    | zero => simp at h
    | succ fuel =>
      have hrest : (cs.flatMap String.utf8EncodeChar).length ≤ fuel := by
        simp only [List.length_cons, List.length_append] at h
        omega
      simp only [decodeFrom, hdec, ih hrest]
      rfl

theorem decodeUtf8_encodeUtf8 (s : String) : decodeUtf8 (encodeUtf8 s) = .ok s := by
  rw [decodeUtf8, encodeUtf8_eq_flatMap, decodeFrom_encoded s.toList (Nat.le_refl _)]
  exact congrArg Except.ok String.ofList_toList

theorem lt_of_encodeUtf8_eq {s : String} {b : UInt8} (h : encodeUtf8 s = [b]) : b < 128 := by
  rw [encodeUtf8_eq_flatMap] at h
  cases hcs : s.toList with
  | nil => simp [hcs] at h
  | cons c cs =>
    rw [hcs, List.flatMap_cons] at h
    have hdecode := decodeChar_utf8EncodeChar c (cs.flatMap String.utf8EncodeChar)
    rw [h] at hdecode
    by_cases hb : b < 128
    · exact hb
    · simp [decodeChar, hb] at hdecode

end Texts

end TableAudit.Text
