import TableAudit.Proofs.DelimitedTables

/-!
# Tables from delimited files

Each cell of a table that is read from a delimited file is what cleaning leaves of a field. It is
never empty and has no byte-order mark at an end. Blanks are taken away before marks, so that a
blank behind a mark stays. Blank records are dropped before records are cut to the width of the
header, so that a row is blank if all that its record holds lies beyond that width.
-/

namespace TableAudit

open Text

namespace Delimited

/-- A text is what cleaning leaves of a field. A blank at one of its ends stood there behind a mark,
at that end of the field without the blanks around it. -/
structure CleanedFrom (field s : String) : Prop where
  eq : s = cleanCell field
  filled : s ≠ ""
  start : ∀ c ∈ s.toList.head?, isMark c = false ∧
    (isBlank c = true → ∃ d ∈ (trim field).toList.head?, isMark d = true)
  stop : ∀ c ∈ s.toList.getLast?, isMark c = false ∧
    (isBlank c = true → ∃ d ∈ (trim field).toList.getLast?, isMark d = true)

private theorem cleanedFrom_cleanCell {field : String} (h : cleanCell field ≠ "") :
    CleanedFrom field (cleanCell field) := by
  refine ⟨rfl, h, ?_, ?_⟩
  · intro c hc
    rw [cleanCell, String.toList_ofList] at hc
    refine ⟨not_of_head?_stripEnds hc, fun hblank => ?_⟩
    rw [trim, String.toList_ofList]
    rcases head?_of_stripEnds hc with hkept | hmark
    · simp [not_of_head?_stripEnds hkept] at hblank
    · exact hmark
  · intro c hc
    rw [cleanCell, String.toList_ofList] at hc
    refine ⟨not_of_getLast?_stripEnds hc, fun hblank => ?_⟩
    rw [trim, String.toList_ofList]
    rcases getLast?_of_stripEnds hc with hkept | hmark
    · simp [not_of_getLast?_stripEnds hkept] at hblank
    · exact hmark

/-- The texts of the fields of a file, record by record; none if a field is no UTF-8. -/
def rawRecords? (delimiter : UInt8) (bytes : List UInt8) : Option (List (List String)) :=
  (records delimiter bytes).mapM fun r => r.fields.mapM fun f => (decodeUtf8 f).toOption

theorem decodeFields_eq_ok {r : Record} {n : Nat} {fs : List (List UInt8)} {row : List String}
    (h : decodeFields r n fs = .ok row) :
    ∃ raw, fs.mapM (fun f => (decodeUtf8 f).toOption) = some raw ∧ row = raw.map cleanCell := by
  induction fs generalizing n row with
  | nil =>
    cases h
    exact ⟨[], rfl, rfl⟩
  | cons f fs ih =>
    rw [decodeFields] at h
    split at h
    · cases h
    · next s hs =>
      obtain ⟨rest, hrest, rfl⟩ := map_eq_ok.1 h
      obtain ⟨raw, hraw, rfl⟩ := ih hrest
      refine ⟨s :: raw, ?_, rfl⟩
      rw [List.mapM_cons, hs, hraw]
      rfl

theorem mapM_decodeFields_eq_ok {rs : List Record} {rows : List (List String)}
    (h : rs.mapM (fun r => decodeFields r 0 r.fields) = .ok rows) :
    ∃ raws, rs.mapM (fun r => r.fields.mapM fun f => (decodeUtf8 f).toOption) = some raws ∧
      rows = raws.map (·.map cleanCell) := by
  induction rs generalizing rows with
  | nil =>
    cases h
    exact ⟨[], rfl, rfl⟩
  | cons r rs ih =>
    rw [List.mapM_cons] at h
    obtain ⟨row, hrow, h⟩ := bind_eq_ok.1 h
    obtain ⟨rest, hrest, h⟩ := bind_eq_ok.1 h
    cases h
    obtain ⟨raw, hraw, rfl⟩ := decodeFields_eq_ok hrow
    obtain ⟨raws, hraws, rfl⟩ := ih hrest
    refine ⟨raw :: raws, ?_, rfl⟩
    rw [List.mapM_cons, hraw, hraws]
    rfl

/-- What the rows of a sheet have to do with the records of its file: each comes from a record that
is not blank, and without a header line no record is cut. -/
structure Sheet.ReadFrom (s : Sheet) (options : Options) (raws : List (List String)) : Prop where
  rows : ∀ row ∈ s.rows, ∃ raw ∈ raws, row = fitted s.headers.length (raw.map cleanCell) ∧
    (∃ field ∈ raw, cleanCell field ≠ "") ∧
    (options.header = false → raw.length ≤ s.headers.length)

private theorem le_foldl_max {n : Nat} {ns : List Nat} (h : n ∈ ns) : n ≤ ns.foldl max 0 := by
  have hmax : (0 :: ns).max? = some (ns.foldl max 0) := List.max?_cons'
  exact (List.max?_eq_some_iff.1 hmax).2 n (List.mem_cons_of_mem 0 h)

private theorem exists_raw_of_mem_filter {raws : List (List String)} {row : List String}
    (h : row ∈ (raws.map (·.map cleanCell)).filter fun row => row.any (· != "")) :
    ∃ raw ∈ raws, row = raw.map cleanCell ∧ ∃ field ∈ raw, cleanCell field ≠ "" := by
  obtain ⟨hrow, hfilled⟩ := List.mem_filter.1 h
  obtain ⟨raw, hraw, rfl⟩ := List.mem_map.1 hrow
  exact ⟨raw, hraw, rfl, by simpa using hfilled⟩

theorem Sheet.readFrom_of_read {options : Options} {bytes : List UInt8} {s : Sheet}
    (h : Sheet.read options bytes = .ok s) :
    ∃ raws, rawRecords? options.delimiter bytes = some raws ∧ s.ReadFrom options raws := by
  obtain ⟨rows, hrows, h⟩ := bind_eq_ok.1 h
  obtain ⟨raws, hraws, rfl⟩ := mapM_decodeFields_eq_ok hrows
  refine ⟨raws, hraws, ⟨?_⟩⟩
  dsimp only at h
  split at h
  · next hheader =>
    split at h
    · cases h
      simp
    · next names rest hrest =>
      cases h
      intro row hrow
      obtain ⟨cells, hcells, rfl⟩ := List.mem_map.1 hrow
      obtain ⟨raw, hraw, rfl, hfilled⟩ :=
        exists_raw_of_mem_filter (hrest ▸ List.mem_cons_of_mem names hcells)
      refine ⟨raw, hraw, ?_, hfilled, ?_⟩
      · rw [List.length_map]
      · simp [hheader]
  · cases h
    intro row hrow
    obtain ⟨cells, hcells, rfl⟩ := List.mem_map.1 hrow
    obtain ⟨raw, hraw, rfl, hfilled⟩ := exists_raw_of_mem_filter hcells
    refine ⟨raw, hraw, ?_, hfilled, fun _ => ?_⟩
    · rw [List.length_map, List.length_range]
    · have hle := le_foldl_max (List.mem_map_of_mem (f := List.length) hcells)
      rw [List.length_map] at hle
      rw [List.length_map, List.length_range]
      exact hle

end Delimited

open Delimited

theorem Table.rows_of_ofColumns {columns : List (Field × List (Option Cell))} {t : Table}
    (h : ofColumns columns = .ok t) : t.fields = columns.map (·.1) ∧
      t.rows = (List.range ((columns.head?.map (·.2.length)).getD 0)).map fun i =>
        columns.map fun c => (c.2[i]?).join := by
  unfold ofColumns at h
  dsimp only at h
  split at h
  · cases h
  · cases h
    exact ⟨rfl, by simp [Function.comp_def]⟩

/-- The rows of a table that is made of a sheet, if all rows of the sheet are as wide as its
header. -/
theorem mem_rows_toTable {s : Sheet} {t : Table} (h : s.toTable = .ok t)
    (hwidth : ∀ row ∈ s.rows, row.length = s.headers.length) {row : Row} (hrow : row ∈ t.rows) :
    t.fields.length = s.headers.length ∧ ∃ texts ∈ s.rows, row = texts.map cellOf := by
  obtain ⟨hfields, hrows⟩ := Table.rows_of_ofColumns h
  have hlength : t.fields.length = s.headers.length := by simp [hfields]
  refine ⟨hlength, ?_⟩
  rw [hrows] at hrow
  obtain ⟨i, hi, rfl⟩ := List.mem_map.1 hrow
  have hi : i < s.rows.length := by
    cases hh : s.headers with
    | nil => simp [hh] at hi
    | cons name names => simpa [hh, Sheet.column] using hi
  refine ⟨s.rows[i], List.getElem_mem hi, ?_⟩
  have hw := hwidth _ (List.getElem_mem hi)
  apply List.ext_getElem (by simp [hw])
  intro j hj hj'
  rw [List.length_map] at hj'
  simp [Sheet.column, hi, hj']

private theorem getElem?_fitted {width : Nat} {row : List String} {j : Nat} {s : String}
    (h : (fitted width row)[j]? = some s) (hs : s ≠ "") : row[j]? = some s := by
  unfold fitted at h
  rw [List.getElem?_append] at h
  split at h
  · next hj =>
    have hlt : j < width := by
      rw [List.length_take] at hj
      omega
    rwa [List.getElem?_take_of_lt hlt] at h
  · exact (hs (List.eq_of_mem_replicate (List.mem_of_getElem? h))).elim

private theorem cellOf_eq_some {s : String} {cell : Cell} (h : cellOf s = some cell) :
    s ≠ "" ∧ cell = .text s := by
  unfold cellOf at h
  split at h
  · cases h
  · next hs =>
    cases h
    exact ⟨fun he => hs (beq_iff_eq.2 he), rfl⟩

private theorem cellOf_eq_none {s : String} : cellOf s = none ↔ s = "" := by
  simp [cellOf]

/-- A row is blank if no field of its record that is within the width holds anything. -/
theorem blank_fitted {width : Nat} {raw : List String} :
    (∀ c ∈ (fitted width (raw.map cleanCell)).map cellOf, c = none) ↔
      ∀ field ∈ raw.take width, cleanCell field = "" := by
  have hcut : (raw.map cleanCell).take width = (raw.take width).map cleanCell := List.map_take.symm
  unfold fitted
  rw [hcut]
  constructor
  · intro h field hfield
    have hmem := List.mem_map_of_mem (f := cleanCell) hfield
    exact cellOf_eq_none.1 (h _ (List.mem_map_of_mem (List.mem_append_left _ hmem)))
  · intro h c hc
    obtain ⟨s, hs, rfl⟩ := List.mem_map.1 hc
    rcases List.mem_append.1 hs with hs | hs
    · obtain ⟨field, hfield, rfl⟩ := List.mem_map.1 hs
      exact cellOf_eq_none.2 (h field hfield)
    · exact cellOf_eq_none.2 (List.eq_of_mem_replicate hs)

/-- A table read from a delimited file, row by row: a row has its cells from the fields of one
record, which is not blank. It is blank itself exactly if its record is cut to the width of a
header line and all that it holds lies beyond. -/
theorem rows_of_file {options : Options} {bytes : List UInt8} {sheet : Sheet} {t : Table}
    (hread : Sheet.read options bytes = .ok sheet) (htable : sheet.toTable = .ok t) :
    ∃ raws, rawRecords? options.delimiter bytes = some raws ∧
      ∀ row ∈ t.rows, ∃ raw ∈ raws,
        (∃ field ∈ raw, cleanCell field ≠ "") ∧
        (∀ (j : Nat) (cell : Cell), row[j]? = some (some cell) →
          ∃ field s, raw[j]? = some field ∧ cell = .text s ∧ CleanedFrom field s) ∧
        ((∀ c ∈ row, c = none) ↔
          options.header = true ∧ ∀ field ∈ raw.take t.fields.length, cleanCell field = "") := by
  obtain ⟨raws, hraws, hfrom⟩ := Sheet.readFrom_of_read hread
  have hwidth : ∀ row ∈ sheet.rows, row.length = sheet.headers.length := by
    intro row hrow
    obtain ⟨raw, -, rfl, -⟩ := hfrom.rows row hrow
    simp [fitted]
    omega
  refine ⟨raws, hraws, fun row hrow => ?_⟩
  obtain ⟨hlength, texts, htexts, rfl⟩ := mem_rows_toTable htable hwidth hrow
  obtain ⟨raw, hraw, rfl, hfilled, hcut⟩ := hfrom.rows texts htexts
  refine ⟨raw, hraw, hfilled, ?_, ?_⟩
  · intro j cell hcell
    rw [List.getElem?_map, Option.map_eq_some_iff] at hcell
    obtain ⟨s, hs, hcell⟩ := hcell
    obtain ⟨hne, htext⟩ := cellOf_eq_some hcell
    have hclean := getElem?_fitted hs hne
    rw [List.getElem?_map, Option.map_eq_some_iff] at hclean
    obtain ⟨field, hfield, rfl⟩ := hclean
    exact ⟨field, _, hfield, htext, cleanedFrom_cleanCell hne⟩
  · rw [hlength, blank_fitted]
    constructor
    · intro hblank
      refine ⟨?_, hblank⟩
      cases hheader : options.header with
      | true => rfl
      | false =>
        -- without a header line nothing is cut, and the record holds something
        rw [List.take_of_length_le (hcut hheader)] at hblank
        obtain ⟨field, hfield, hne⟩ := hfilled
        exact (hne (hblank field hfield)).elim
    · exact fun h => h.2

/-- Of the only record a number is left, without the blanks around it. -/
theorem rows_of_file_number :
    Sheet.read .standard (encodeUtf8 "id,note\n 1 ,\n") = .ok ⟨["id", "note"], [["1", ""]]⟩ ∧
      (Sheet.mk ["id", "note"] [["1", ""]]).toTable = .ok (.ofNotes [("1", none)]) ∧
      ∃ field s, cleanCell field = s ∧ CleanedFrom field s ∧ s = "1" := by
  have hread : Sheet.read .standard (encodeUtf8 "id,note\n 1 ,\n") =
      .ok ⟨["id", "note"], [["1", ""]]⟩ := by
    rw [encodeUtf8_eq_flatMap]
    rfl
  have htable : (Sheet.mk ["id", "note"] [["1", ""]]).toTable = .ok (.ofNotes [("1", none)]) := rfl
  obtain ⟨raws, -, hrows⟩ := rows_of_file hread htable
  obtain ⟨raw, -, -, hcells, -⟩ := hrows _ List.mem_cons_self
  obtain ⟨field, s, -, hcell, hclean⟩ := hcells 0 _ rfl
  cases hcell
  exact ⟨hread, htable, field, _, hclean.eq.symm, hclean, rfl⟩

/-- A blank behind a mark is left at the start of a cell, and a record whose only text stands behind
the width of the header is left as a blank row. -/
theorem ends_of_file_left_blank :
    isBlank ' ' = true ∧
      Sheet.read .standard (encodeUtf8 "id,note\n1,\uFEFF x\n") =
        .ok ⟨["id", "note"], [["1", " x"]]⟩ ∧
      (Sheet.mk ["id", "note"] [["1", " x"]]).toTable = .ok (.ofNotes [("1", some " x")]) ∧
      Sheet.read .standard (encodeUtf8 "id,note\n,,x\n") = .ok ⟨["id", "note"], [["", ""]]⟩ ∧
      ∃ t, (Sheet.mk ["id", "note"] [["", ""]]).toTable = .ok t ∧ t.rows = [[none, none]] := by
  refine ⟨rfl, ?_, rfl, ?_, _, rfl, rfl⟩
  · rw [encodeUtf8_eq_flatMap]
    rfl
  · rw [encodeUtf8_eq_flatMap]
    rfl

end TableAudit
