import TableAudit.Proofs.Utf8
import TableAudit.Store.Delimited

/-!
# Fields through delimited files

The reader finds in a written file the fields that were put there, whatever bytes they hold. The
proof follows the reader over a field, over a record and over the file.
-/

namespace TableAudit.Delimited

open Text

/-- Delimiters that can be told from quotes and line ends. -/
structure Usable (d : UInt8) : Prop where
  quote : d ≠ quote
  lineFeed : d ≠ lineFeed
  carriageReturn : d ≠ carriageReturn

def isSpecial (d b : UInt8) : Bool := b == d || b == quote || isLineEnd b

private theorem isSpecial_eq_false {d b : UInt8} :
    isSpecial d b = false ↔ b ≠ d ∧ b ≠ quote ∧ isLineEnd b = false := by
  simp [isSpecial, and_assoc]

theorem isSpecial_eq_true {d b : UInt8} :
    isSpecial d b = true ↔ b = d ∨ b = quote ∨ b = lineFeed ∨ b = carriageReturn := by
  simp [isSpecial, isLineEnd, or_assoc]

private theorem lt_of_isSpecial {d b : UInt8} (hd : d < 128) (h : isSpecial d b = true) :
    b < 128 := by
  rcases isSpecial_eq_true.1 h with rfl | rfl | rfl | rfl
  · exact hd
  all_goals decide

def doubled (b : UInt8) : List UInt8 := if b = quote then [quote, quote] else [b]

def fieldBytes (d : UInt8) (alone : Bool) (field : List UInt8) : List UInt8 :=
  if field.any (isSpecial d) || (alone && field.isEmpty) then
    quote :: field.flatMap doubled ++ [quote]
  else field

def recordBytes (d : UInt8) (fields : List (List UInt8)) : List UInt8 :=
  [d].intercalate (fields.map (fieldBytes d (fields.length == 1))) ++ [lineFeed]

theorem intercalate_eq_flatMap {α : Type} (d : α) (xs : List α) (xss : List (List α)) :
    [d].intercalate (xs :: xss) = xs ++ xss.flatMap (d :: ·) := by
  induction xss generalizing xs with
  | nil => simp
  | cons ys xss ih => simp [List.intercalate_cons_cons, ih]

theorem recordBytes_cons (d : UInt8) (first : List UInt8) (rest : List (List UInt8)) :
    recordBytes d (first :: rest) = fieldBytes d (rest.length == 0) first ++
      (rest.flatMap (d :: fieldBytes d (rest.length == 0) ·) ++ [lineFeed]) := by
  simp [recordBytes, intercalate_eq_flatMap, List.flatMap_map]

/-- What a reader knows, apart from the places that it counts: its mode, the fields of the records
so far, those of the current record, and the bytes of the current field. -/
structure Reader.At (r : Reader) (mode : Mode) (rows : List (List (List UInt8)))
    (fields : List (List UInt8)) (field : List UInt8) : Prop where
  mode : r.mode = mode
  rows : r.records.reverse.map Record.fields = rows
  fields : r.fields.reverse = fields
  field : r.field.reverse = field

namespace Reader.At

variable {d : UInt8} {r : Reader} {m : Mode} {rows : List (List (List UInt8))}
  {fields : List (List UInt8)} {field : List UInt8}

section Steps

/-- A reader that differs from another one by a byte at the end of its field. -/
private theorem of_copied {r' : Reader} {m' : Mode} {b : UInt8} (h : r.At m rows fields field)
    (hmode : r'.mode = m') (hrecords : r'.records = r.records) (hfields : r'.fields = r.fields)
    (hfield : r'.field = b :: r.field) : r'.At m' rows fields (field ++ [b]) where
  mode := hmode
  rows := hrecords ▸ h.rows
  fields := hfields ▸ h.fields
  field := by rw [hfield, List.reverse_cons, h.field]

private theorem of_moved {r' : Reader} {m' : Mode} (h : r.At m rows fields field)
    (hmode : r'.mode = m') (hrecords : r'.records = r.records) (hfields : r'.fields = r.fields)
    (hfield : r'.field = r.field) : r'.At m' rows fields field where
  mode := hmode
  rows := hrecords ▸ h.rows
  fields := hfields ▸ h.fields
  field := hfield ▸ h.field

/-- Outside quotes a byte without a meaning belongs to the field. -/
theorem plain_step (h : r.At m rows fields field)
    (hm : m = .startRecord ∨ m = .startField ∨ m = .inField) {b : UInt8}
    (hb : isSpecial d b = false) : (step d r b).At .inField rows fields (field ++ [b]) := by
  obtain ⟨hd, hq, hl⟩ := isSpecial_eq_false.1 hb
  rcases hm with rfl | rfl | rfl
  all_goals
    apply h.of_copied <;>
    simp [step, h.mode, recordStart, fieldStart, plainByte, copy, hd, hq, hl]

theorem open_step (h : r.At m rows fields field) (hm : m = .startRecord ∨ m = .startField) :
    (step d r quote).At .inQuotes rows fields field := by
  have hl : isLineEnd quote = false := rfl
  rcases hm with rfl | rfl
  all_goals
    apply h.of_moved <;> simp [step, h.mode, recordStart, fieldStart, hl]

theorem quoted_step (h : r.At .inQuotes rows fields field) {b : UInt8} (hb : b ≠ quote) :
    (step d r b).At .inQuotes rows fields (field ++ [b]) := by
  apply h.of_copied <;> simp [step, h.mode, copy, hb]

theorem close_step (h : r.At .inQuotes rows fields field) :
    (step d r quote).At .afterQuote rows fields field := by
  apply h.of_moved <;> simp [step, h.mode]

theorem reopen_step (h : r.At .afterQuote rows fields field) :
    (step d r quote).At .inQuotes rows fields (field ++ [quote]) := by
  apply h.of_copied <;> simp [step, h.mode, copy]

private theorem delimiter_step (h : r.At m rows fields field) (hd : Usable d)
    (hm : m = .startRecord ∨ m = .startField ∨ m = .inField ∨ m = .afterQuote) :
    (step d r d).At .startField rows (fields ++ [field]) [] := by
  have hl : isLineEnd d = false := by simp [isLineEnd, hd.lineFeed, hd.carriageReturn]
  have hq := hd.quote
  rcases hm with rfl | rfl | rfl | rfl
  all_goals
    constructor <;>
    simp [step, h.mode, recordStart, fieldStart, plainByte, endField, hl, hq, h.rows, h.fields,
      h.field]

theorem lineFeed_step (h : r.At m rows fields field) (hd : Usable d)
    (hm : m = .startField ∨ m = .inField ∨ m = .afterQuote) :
    (step d r lineFeed).At .startRecord (rows ++ [fields ++ [field]]) [] [] := by
  have hne : lineFeed ≠ d := hd.lineFeed.symm
  have hq : lineFeed ≠ quote := by decide
  have hl : isLineEnd lineFeed = true := rfl
  have hr : lineFeed ≠ carriageReturn := by decide
  rcases hm with rfl | rfl | rfl
  all_goals
    constructor <;>
    simp [step, h.mode, fieldStart, plainByte, endRecord, hne, hq, hl, hr, h.rows, h.fields,
      h.field]

end Steps

section Runs

theorem plain_run (h : r.At .inField rows fields field) {bytes : List UInt8}
    (hb : ∀ b ∈ bytes, isSpecial d b = false) :
    (bytes.foldl (step d) r).At .inField rows fields (field ++ bytes) := by
  induction bytes generalizing r field with
  | nil => simpa using h
  | cons b bytes ih =>
    have hstep := h.plain_step (.inr (.inr rfl)) (hb b List.mem_cons_self)
    have hrun := ih hstep fun b' hb' => hb b' (List.mem_cons_of_mem b hb')
    simpa using hrun

/-- It takes two quotes inside quotes for one. -/
theorem quoted_run (h : r.At .inQuotes rows fields field) (bytes : List UInt8) :
    ((bytes.flatMap doubled).foldl (step d) r).At .inQuotes rows fields (field ++ bytes) := by
  induction bytes generalizing r field with
  | nil => simpa using h
  | cons b bytes ih =>
    have hb : ((doubled b).foldl (step d) r).At .inQuotes rows fields (field ++ [b]) := by
      by_cases hq : b = quote
      · subst hq
        exact (h.close_step (d := d)).reopen_step
      · simpa [doubled, hq] using h.quoted_step hq
    rw [List.flatMap_cons, List.foldl_append]
    simpa using ih hb

/-- A reader at the start of a field reads a written one and then is ready for what ends it, unless
it has seen nothing. -/
theorem field_run (h : r.At m rows fields []) (hm : m = .startRecord ∨ m = .startField)
    (alone : Bool) (bytes : List UInt8) :
    ∃ m', ((fieldBytes d alone bytes).foldl (step d) r).At m' rows fields bytes ∧
      (m' = .inField ∨ m' = .afterQuote ∨ m' = m ∧ alone = false) := by
  unfold fieldBytes
  split
  · have hopen := h.open_step (d := d) hm
    have hrun := (hopen.quoted_run (d := d) bytes).close_step (d := d)
    refine ⟨.afterQuote, ?_, .inr (.inl rfl)⟩
    simpa using hrun
  · next hplain =>
    cases bytes with
    | nil => exact ⟨m, h, .inr (.inr ⟨rfl, by simpa using hplain⟩)⟩
    | cons b bytes =>
      have hspecial : ∀ b' ∈ b :: bytes, isSpecial d b' = false := by
        simpa using hplain
      have hstart : m = .startRecord ∨ m = .startField ∨ m = .inField :=
        hm.elim .inl fun hm => .inr (.inl hm)
      have hstep := h.plain_step hstart (hspecial b List.mem_cons_self)
      have hrun := hstep.plain_run fun b' hb' => hspecial b' (List.mem_cons_of_mem b hb')
      exact ⟨.inField, by simpa using hrun, .inl rfl⟩

theorem rest_run (hd : Usable d) (alone : Bool) (rest : List (List UInt8))
    (h : r.At m rows fields field)
    (hm : m = .startField ∨ m = .inField ∨ m = .afterQuote ∨ m = .startRecord ∧ rest ≠ []) :
    ((rest.flatMap (d :: fieldBytes d alone ·) ++ [lineFeed]).foldl (step d) r).At .startRecord
      (rows ++ [fields ++ field :: rest]) [] [] := by
  induction rest generalizing r m fields field with
  | nil =>
    have hready : m = .startField ∨ m = .inField ∨ m = .afterQuote := by simpa using hm
    exact h.lineFeed_step hd hready
  | cons next rest ih =>
    have hready : m = .startRecord ∨ m = .startField ∨ m = .inField ∨ m = .afterQuote := by
      rcases hm with hm | hm | hm | ⟨hm, -⟩ <;> simp [hm]
    obtain ⟨m', hfield, hm'⟩ := (h.delimiter_step hd hready).field_run (.inr rfl) alone next
    have hrun := ih hfield (by rcases hm' with hm' | hm' | ⟨hm', -⟩ <;> simp [hm'])
    simpa using hrun

theorem record_run (h : r.At .startRecord rows [] []) (hd : Usable d) {record : List (List UInt8)}
    (hne : record ≠ []) :
    ((recordBytes d record).foldl (step d) r).At .startRecord (rows ++ [record]) [] [] := by
  obtain ⟨first, rest, rfl⟩ := List.exists_cons_of_ne_nil hne
  obtain ⟨m, hfirst, hm⟩ := h.field_run (d := d) (.inl rfl) (rest.length == 0) first
  have hready : m = .startField ∨ m = .inField ∨ m = .afterQuote ∨
      m = .startRecord ∧ rest ≠ [] := by
    rcases hm with hm | hm | ⟨hm, hrest⟩
    · exact .inr (.inl hm)
    · exact .inr (.inr (.inl hm))
    · exact .inr (.inr (.inr ⟨hm, by simpa using hrest⟩))
  have hrun := rest_run hd (rest.length == 0) rest hfirst hready
  simpa [recordBytes_cons, List.foldl_append] using hrun

private theorem records_run (h : r.At .startRecord rows [] []) (hd : Usable d)
    (file : List (List (List UInt8))) (hne : ∀ record ∈ file, record ≠ []) :
    ((file.flatMap (recordBytes d)).foldl (step d) r).At .startRecord (rows ++ file) [] [] := by
  induction file generalizing r rows with
  | nil => simpa using h
  | cons record file ih =>
    have hrecord := h.record_run hd (hne record List.mem_cons_self)
    rw [List.flatMap_cons, List.foldl_append]
    simpa using ih hrecord fun other ho => hne other (List.mem_cons_of_mem record ho)

end Runs

end Reader.At

/-- A byte-order mark is not made up of the end of a field and what stands behind it. -/
theorem dropMark_append {field rest : List UInt8} {b : UInt8}
    (h : ¬ [0xef, 0xbb, 0xbf] <+: field) (hb : b < 128) :
    dropMark (field ++ b :: rest) = (0, field ++ b :: rest) := by
  unfold dropMark
  split
  · next rest' heq =>
    exfalso
    match field, h with
    | [], _ =>
      obtain ⟨rfl, -⟩ := List.cons.inj heq
      exact absurd hb (by decide)
    | [x], _ =>
      simp only [List.cons_append, List.nil_append, List.cons.injEq] at heq
      obtain ⟨-, rfl, -⟩ := heq
      exact absurd hb (by decide)
    | [x, y], _ =>
      simp only [List.cons_append, List.nil_append, List.cons.injEq] at heq
      obtain ⟨-, -, rfl, -⟩ := heq
      exact absurd hb (by decide)
    | x :: y :: z :: field, h =>
      simp only [List.cons_append, List.cons.injEq] at heq
      obtain ⟨rfl, rfl, rfl, -⟩ := heq
      exact h ⟨field, rfl⟩
  · rfl

private theorem dropMark_recordBytes {d : UInt8} (hd : d < 128) {first : List UInt8}
    (h : ¬ [0xef, 0xbb, 0xbf] <+: first) (rest : List (List UInt8)) (more : List UInt8) :
    (dropMark (recordBytes d (first :: rest) ++ more)).2 =
      recordBytes d (first :: rest) ++ more := by
  obtain ⟨b, behind, hb, hbehind⟩ : ∃ b behind, b < 128 ∧
      rest.flatMap (d :: fieldBytes d (rest.length == 0) ·) ++ [lineFeed] ++ more =
        b :: behind := by
    cases rest with
    | nil => exact ⟨lineFeed, more, by decide, rfl⟩
    | cons next rest => exact ⟨d, _, hd, rfl⟩
  rw [recordBytes_cons, List.append_assoc, hbehind]
  unfold fieldBytes
  split
  · have hnil : ¬ [0xef, 0xbb, 0xbf] <+: ([] : List UInt8) := by simp
    have hquote : quote < 128 := by decide
    rw [List.append_assoc, List.cons_append]
    exact congrArg Prod.snd (dropMark_append hnil hquote)
  · rw [dropMark_append h hb]

/-- The fields of a written file, if it does not start with a byte-order mark. -/
theorem fields_records {d : UInt8} (hd : Usable d) {file : List (List (List UInt8))}
    (hne : ∀ record ∈ file, record ≠ [])
    (hmark : (dropMark (file.flatMap (recordBytes d))).2 = file.flatMap (recordBytes d)) :
    (records d (file.flatMap (recordBytes d))).map Record.fields = file := by
  have hstart : (Reader.start (dropMark (file.flatMap (recordBytes d))).1).At .startRecord
      [] [] [] := ⟨rfl, rfl, rfl, rfl⟩
  have hrun := hstart.records_run hd file hne
  simp only [records, hmark, Reader.finish, hrun.mode]
  exact hrun.rows

section Texts

variable {d : UInt8}

/-- The characters that have to stand between quotes are those with the bytes that have to. -/
theorem special_char {c : Char} :
    (c == Char.ofNat d.toNat || c == '"' || c == '\r' || c == '\n') = true ↔
      ∃ b, isSpecial d b = true ∧ c = Char.ofNat b.toNat := by
  simp only [Bool.or_eq_true, beq_iff_eq, isSpecial_eq_true]
  constructor
  · rintro (((rfl | rfl) | rfl) | rfl)
    · exact ⟨d, .inl rfl, rfl⟩
    · exact ⟨quote, .inr (.inl rfl), rfl⟩
    · exact ⟨carriageReturn, .inr (.inr (.inr rfl)), rfl⟩
    · exact ⟨lineFeed, .inr (.inr (.inl rfl)), rfl⟩
  · rintro ⟨b, rfl | rfl | rfl | rfl, rfl⟩
    · exact .inl (.inl (.inl rfl))
    · exact .inl (.inl (.inr rfl))
    · exact .inr rfl
    · exact .inl (.inr rfl)

private theorem any_special (hd : d < 128) (s : String) :
    (s.toList.any fun c => c == Char.ofNat d.toNat || c == '"' || c == '\r' || c == '\n') =
      (encodeUtf8 s).any (isSpecial d) := by
  rw [Bool.eq_iff_iff, List.any_eq_true, List.any_eq_true]
  constructor
  · rintro ⟨c, hc, h⟩
    obtain ⟨b, hb, rfl⟩ := special_char.1 h
    exact ⟨b, (mem_encodeUtf8 (lt_of_isSpecial hd hb)).2 hc, hb⟩
  · rintro ⟨b, hb, h⟩
    exact ⟨_, (mem_encodeUtf8 (lt_of_isSpecial hd h)).1 hb, special_char.2 ⟨b, h, rfl⟩⟩

theorem flatMap_doubled (cs : List Char) :
    (cs.flatMap fun c => if c == '"' then ['"', '"'] else [c]).flatMap String.utf8EncodeChar =
      (cs.flatMap String.utf8EncodeChar).flatMap doubled := by
  have hplain : ∀ bytes : List UInt8, quote ∉ bytes → bytes.flatMap doubled = bytes := by
    intro bytes h
    induction bytes with
    | nil => rfl
    | cons b bytes ih =>
      obtain ⟨hb, hbytes⟩ := not_or.1 (mt List.mem_cons.2 h)
      simp [doubled, Ne.symm hb, ih hbytes]
  have hchar : ∀ c : Char, (if c == '"' then ['"', '"'] else [c]).flatMap String.utf8EncodeChar =
      (String.utf8EncodeChar c).flatMap doubled := by
    intro c
    by_cases hc : c = '"'
    · subst hc
      decide
    · have hq : quote ∉ String.utf8EncodeChar c := fun h =>
        hc ((mem_utf8EncodeChar (by decide)).1 h)
      simp [hc, hplain _ hq]
  simp only [List.flatMap_assoc, hchar]

private theorem encodeUtf8_writeField (hd : d < 128) (alone : Bool) (s : String) :
    encodeUtf8 (writeField (Char.ofNat d.toNat) alone s) =
      fieldBytes d alone (encodeUtf8 s) := by
  have hempty : (s == "") = (encodeUtf8 s).isEmpty := by
    rw [Bool.eq_iff_iff, beq_iff_eq, List.isEmpty_iff, encodeUtf8_eq_nil]
  have hquote : String.utf8EncodeChar '"' = [quote] := by decide
  unfold writeField fieldBytes
  dsimp only
  rw [any_special hd, hempty]
  split
  · rw [encodeUtf8_eq_flatMap, encodeUtf8_eq_flatMap, String.toList_ofList, List.flatMap_append,
      List.flatMap_cons, flatMap_doubled, hquote]
    rfl
  · rfl

private theorem encodeUtf8_writeRecord (hd : d < 128) {fields : List String} (h : fields ≠ []) :
    encodeUtf8 (writeRecord (Char.ofNat d.toNat) fields) =
      recordBytes d (fields.map encodeUtf8) := by
  have hdelimiter : encodeUtf8 (Char.ofNat d.toNat).toString = [d] := by
    rw [encodeUtf8_eq_flatMap, Char.toString_eq_singleton, String.toList_singleton,
      List.flatMap_singleton, utf8EncodeChar_ofNat hd]
  have hend : encodeUtf8 "\n" = [lineFeed] := by
    rw [encodeUtf8_eq_flatMap]
    decide
  have hfields : (fields.map
      (writeField (Char.ofNat d.toNat) (fields.length == 1))).map encodeUtf8 =
      (fields.map encodeUtf8).map (fieldBytes d (fields.length == 1)) := by
    simp only [List.map_map, Function.comp_def, encodeUtf8_writeField hd]
  have hnonempty : fields.isEmpty = false := by simpa using h
  unfold writeRecord recordBytes
  simp only [hnonempty, Bool.false_eq_true, if_false, encodeUtf8_append, encodeUtf8_intercalate,
    hfields, hdelimiter, hend, List.length_map]

theorem encodeUtf8_write {options : Options} (hd : options.delimiter < 128)
    (hh : options.header = true) {header : List String} {rows : List (List String)}
    (hne : ∀ fields ∈ header :: rows, fields ≠ []) :
    encodeUtf8 (write options header rows) =
      ((header :: rows).map (·.map encodeUtf8)).flatMap (recordBytes options.delimiter) := by
  unfold write
  rw [if_pos hh, encodeUtf8_join, List.flatMap_def, List.flatMap_def, List.map_map, List.map_map]
  congr 1
  apply List.map_congr_left
  intro fields hfields
  exact encodeUtf8_writeRecord hd (hne fields hfields)

/-- Reading a written text finds the fields of its header line and of its rows, unless the first
name of the header starts with a byte-order mark. -/
theorem fields_records_write {options : Options} (hd : Usable options.delimiter)
    (hlt : options.delimiter < 128) (hh : options.header = true) {header : List String}
    {rows : List (List String)} (hne : ∀ fields ∈ header :: rows, fields ≠ [])
    (hmark : ∀ name ∈ header.head?, ¬ [0xef, 0xbb, 0xbf] <+: encodeUtf8 name) :
    (records options.delimiter (encodeUtf8 (write options header rows))).map Record.fields =
      (header :: rows).map (·.map encodeUtf8) := by
  rw [encodeUtf8_write hlt hh hne]
  apply fields_records hd
  · intro record hrecord
    obtain ⟨fields, hfields, rfl⟩ := List.mem_map.1 hrecord
    simpa using hne fields hfields
  · obtain ⟨name, names, rfl⟩ := List.exists_cons_of_ne_nil (hne header List.mem_cons_self)
    exact dropMark_recordBytes hlt (hmark name rfl) _ _

end Texts

end TableAudit.Delimited
