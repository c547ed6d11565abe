import Mathlib.Data.List.Flatten
import TableAudit.Proofs.Delimited
import TableAudit.Proofs.Marks
import TableAudit.Proofs.Stripping
import TableAudit.Report.Basic

/-!
# Tables through delimited files

A table of clean texts that is written as delimited text and read back is the same table, missing
cells included.
-/

namespace TableAudit

open Text
open scoped List

section Cleaning

theorem length_intercalate_pieces (p : Char → Bool) (cs : List Char) :
    ([' '].intercalate (pieces p cs)).length = cs.length := by
  induction cs with
  | nil => simp [pieces]
  | cons c cs ih =>
    obtain ⟨w, ws, hw⟩ := List.exists_cons_of_ne_nil (pieces_ne_nil p cs)
    rw [hw] at ih
    by_cases hc : p c = true
    · simp [pieces, hc, hw, List.intercalate_cons_cons, ih]
    · have hlonger : pieces p (c :: cs) = (c :: w) :: ws := by simp [pieces, hc, hw]
      rw [Delimited.intercalate_eq_flatMap] at ih
      rw [hlonger, Delimited.intercalate_eq_flatMap, List.cons_append, List.length_cons, ih,
        List.length_cons]

theorem length_intercalate_filter_le (q : List Char → Bool) (ws : List (List Char)) :
    ([' '].intercalate (ws.filter q)).length ≤ ([' '].intercalate ws).length := by
  induction ws with
  | nil => simp
  | cons w ws ih =>
    by_cases hw : q w = true
    · have hsublist : ws.filter q <+ ws := List.filter_sublist
      have hrest := (hsublist.flatMap (' ' :: ·)).length_le
      rw [List.filter_cons_of_pos hw, Delimited.intercalate_eq_flatMap,
        Delimited.intercalate_eq_flatMap, List.length_append, List.length_append]
      exact Nat.add_le_add_left hrest w.length
    · have hlonger : ([' '].intercalate ws).length ≤ ([' '].intercalate (w :: ws)).length := by
        cases ws with
        | nil => simp
        | cons v ws => simp [List.intercalate_cons_cons]; omega
      rw [List.filter_cons_of_neg hw]
      exact Nat.le_trans ih hlonger

/-- The words of a text, put together again, are no longer than the text. -/
theorem length_joined_words (s : String) :
    (" ".intercalate (words s)).toList.length ≤ s.toList.length := by
  have hwords : (" ".intercalate (words s)).toList =
      [' '].intercalate ((pieces isBlank s.toList).filter (! ·.isEmpty)) := by
    simp [words, String.toList_intercalate]
  rw [hwords, ← length_intercalate_pieces isBlank s.toList]
  exact length_intercalate_filter_le _ _

namespace Delimited

theorem cleanCell_of_cleanHeader {name : String} (h : cleanHeader name = name) :
    cleanCell name = name := by
  have hinner : (cleanCell name).toList <:+: name.toList := by
    rw [cleanCell, String.toList_ofList]
    exact (infix_of_stripEnds isMark _).trans (infix_of_stripEnds isBlank _)
  have hwords := length_joined_words (cleanCell name)
  rw [← cleanHeader, h] at hwords
  exact String.toList_injective (hinner.eq_of_length_le hwords)

theorem no_mark_of_cleanCell {cell : String} (h : cleanCell cell = cell) :
    ¬ [0xef, 0xbb, 0xbf] <+: encodeUtf8 cell := by
  rintro ⟨rest, hrest⟩
  rw [encodeUtf8_eq_flatMap] at hrest
  cases hcs : cell.toList with
  | nil => simp [hcs] at hrest
  | cons c cs =>
    have hmark : decodeChar ([0xef, 0xbb, 0xbf] ++ rest) = some (Char.ofNat 0xfeff, rest) := by
      simp [decodeChar, isContinuation, payload]
    rw [hrest, hcs, List.flatMap_cons, decodeChar_utf8EncodeChar] at hmark
    have hc : c = Char.ofNat 0xfeff := (Prod.mk.inj (Option.some.inj hmark)).1
    have hstrip : stripEnds isMark (stripEnds isBlank cell.toList) = c :: cs := by
      have hlist := congrArg String.toList h
      rw [cleanCell, String.toList_ofList] at hlist
      exact hlist.trans hcs
    have hplain := head_stripEnds hstrip
    rw [hc] at hplain
    exact absurd hplain (by decide)

end Delimited

end Cleaning

section Sheets

namespace Delimited

private theorem map_eq_self {α : Type} {f : α → α} {xs : List α} (h : ∀ x ∈ xs, f x = x) :
    xs.map f = xs :=
  (List.map_congr_left h).trans (List.map_id xs)

private theorem decodeFields_encoded (r : Record) (n : Nat) (cells : List String) :
    decodeFields r n (cells.map encodeUtf8) = .ok (cells.map cleanCell) := by
  induction cells generalizing n with
  | nil => rfl
  | cons cell cells ih =>
    simp only [List.map_cons, decodeFields, decodeUtf8_encodeUtf8, ih]
    rfl

private theorem mapM_decodeFields {rs : List Record} {rows : List (List String)}
    (h : rs.map Record.fields = rows.map (·.map encodeUtf8)) :
    rs.mapM (fun r => decodeFields r 0 r.fields) = .ok (rows.map (·.map cleanCell)) := by
  induction rs generalizing rows with
  | nil =>
    obtain rfl : rows = [] := by simpa using h.symm
    rfl
  | cons r rs ih =>
    cases rows with
    | nil => simp at h
    | cons row rows =>
      obtain ⟨hr, hrs⟩ := List.cons.inj h
      rw [List.mapM_cons, hr, decodeFields_encoded, ih hrs]
      rfl

/-- The sheet of a written file with a header line, if its names and cells are clean, no record is
blank and all are of the width of the header. -/
theorem Sheet.read_write {options : Options} (hd : Usable options.delimiter)
    (hlt : options.delimiter < 128) (hh : options.header = true) {header : List String}
    {rows : List (List String)} (hheader : ∀ name ∈ header, cleanHeader name = name)
    (hcells : ∀ row ∈ rows, ∀ cell ∈ row, cleanCell cell = cell)
    (hwidth : ∀ row ∈ rows, row.length = header.length)
    (hfilled : ∀ row ∈ header :: rows, ∃ cell ∈ row, cell ≠ "") :
    Sheet.read options (encodeUtf8 (write options header rows)) = .ok ⟨header, rows⟩ := by
  have hne : ∀ row ∈ header :: rows, row ≠ [] := by
    rintro row hrow rfl
    obtain ⟨cell, hcell, -⟩ := hfilled [] hrow
    cases hcell
  have hmark : ∀ name ∈ header.head?, ¬ [0xef, 0xbb, 0xbf] <+: encodeUtf8 name := by
    intro name hname
    have hclean := hheader name (List.mem_of_mem_head? hname)
    exact no_mark_of_cleanCell (cleanCell_of_cleanHeader hclean)
  have hfields := fields_records_write hd hlt hh hne hmark
  have hclean : (header :: rows).map (·.map cleanCell) = header :: rows := by
    apply map_eq_self
    intro row hrow
    apply map_eq_self
    intro cell hcell
    rcases List.mem_cons.1 hrow with rfl | hrow
    · exact cleanCell_of_cleanHeader (hheader cell hcell)
    · exact hcells row hrow cell hcell
  have hkept : (header :: rows).filter (fun row => row.any (· != "")) = header :: rows := by
    rw [List.filter_eq_self]
    intro row hrow
    simpa using hfilled row hrow
  have hfitted : rows.map (fitted header.length) = rows := by
    apply map_eq_self
    intro row hrow
    simp [fitted, ← hwidth row hrow]
  unfold Sheet.read
  rw [mapM_decodeFields hfields, hclean]
  change (if options.header = true then _ else _) = _
  rw [if_pos hh, hkept]
  dsimp only
  rw [map_eq_self hheader, hfitted]
  rfl

private theorem delimiterOf?_lt {raw : String} {b : UInt8} (h : delimiterOf? raw = some b) :
    b < 128 := by
  unfold delimiterOf? at h
  split at h
  · cases h
    decide
  · cases h
    decide
  · split at h
    · next hbytes =>
      cases h
      exact lt_of_encodeUtf8_eq hbytes
    · cases h

private theorem lt_of_ofConfig {delimiter : Option String} {header : Option Bool}
    {options : Options}
    (h : Options.ofConfig delimiter header = .ok options) : options.delimiter < 128 := by
  unfold Options.ofConfig at h
  dsimp only at h
  split at h
  · next hd =>
    cases h
    exact delimiterOf?_lt hd
  · cases h

end Delimited

end Sheets

section Tables

open Delimited

/-- A cell that reading leaves as it is: a missing one, or a clean text that is not empty. -/
def Cell.IsClean (c : Option Cell) : Prop :=
  c = none ∨ ∃ s, c = some (.text s) ∧ s ≠ "" ∧ cleanCell s = s

/-- A table of clean texts under clean names, without blank rows. -/
structure Table.Legible (t : Table) : Prop where
  texts : ∀ f ∈ t.fields, f.type = .text
  names : ∀ name ∈ t.names, cleanHeader name = name
  named : ∃ name ∈ t.names, name ≠ ""
  cells : ∀ row ∈ t.rows, ∀ c ∈ row, Cell.IsClean c
  filled : ∀ row ∈ t.rows, ∃ c ∈ row, c ≠ none

def Cell.written (c : Option Cell) : String := (c.map Cell.toText).getD ""

namespace Cell

private theorem cleanCell_written {c : Option Cell} (h : IsClean c) :
    cleanCell (written c) = written c := by
  rcases h with rfl | ⟨s, rfl, -, hs⟩
  · decide
  · exact hs

theorem cellOf_written {c : Option Cell} (h : IsClean c) : cellOf (written c) = c := by
  rcases h with rfl | ⟨s, rfl, hs, -⟩
  · decide
  · simp [cellOf, written, toText, hs]

private theorem written_ne_empty {c : Option Cell} (h : IsClean c) (hc : c ≠ none) :
    written c ≠ "" := by
  intro he
  have hread := cellOf_written h
  rw [he] at hread
  exact hc hread.symm

end Cell

private def sheetColumns (t : Table) : List (Field × List (Option Cell)) :=
  t.names.zipIdx.map fun (name, i) =>
    (⟨name, .text⟩, (Sheet.mk t.names (t.rows.map (·.map Cell.written))).column i)

private theorem fields_sheetColumns {t : Table} (ht : t.Legible) :
    (sheetColumns t).map (·.1) = t.fields := by
  have hnames : (sheetColumns t).map (·.1) = t.names.map fun name => ⟨name, .text⟩ := by
    have hfst := congrArg (List.map fun name => (⟨name, .text⟩ : Field))
      (List.zipIdx_map_fst 0 t.names)
    rw [← hfst, sheetColumns, List.map_map, List.map_map]
    rfl
  rw [hnames, Table.names, Schema.names, List.map_map]
  apply map_eq_self
  intro f hf
  have htype := ht.texts f hf
  cases f
  cases htype
  rfl

private theorem rows_sheetColumns {t : Table} (ht : t.Legible) {i : Nat} (hi : i < t.rows.length) :
    (sheetColumns t).map (fun c => (c.2[i]?).join) = t.rows[i] := by
  have hwidth : t.rows[i].length = t.names.length := by
    simp [t.rect _ (List.getElem_mem hi), Table.names, Schema.names]
  apply List.ext_getElem (by simp [sheetColumns, hwidth])
  intro j hj hj'
  have hclean := ht.cells _ (List.getElem_mem hi) _ (List.getElem_mem hj')
  simp [sheetColumns, Sheet.column, hi, hj', Cell.cellOf_written hclean]

/-- The sheet of the texts of a table is the table again. -/
theorem toTable_written {t : Table} (ht : t.Legible) :
    (Sheet.mk t.names (t.rows.map (·.map Cell.written))).toTable = .ok t := by
  have hfields := fields_sheetColumns ht
  have hdistinct : (((sheetColumns t).map (·.1)).map Field.name).Nodup := by
    rw [hfields]
    exact t.distinct
  obtain ⟨u, hu, huf, hur⟩ := Table.ofColumns_eq_ok hdistinct
  have hheight : ((sheetColumns t).head?.map (·.2.length)).getD 0 = t.rows.length := by
    obtain ⟨name, hname, -⟩ := ht.named
    obtain ⟨first, rest, hrest⟩ := List.exists_cons_of_ne_nil (List.ne_nil_of_mem hname)
    simp [sheetColumns, hrest, Sheet.column]
  have hrows : u.rows = t.rows := by
    rw [hur, hheight]
    apply List.ext_getElem (by simp)
    intro i hi hi'
    rw [List.getElem_map, List.getElem_range]
    exact rows_sheetColumns ht hi'
  have hut : u = t := Table.eq_of_rows (huf.trans hfields) hrows
  exact hut ▸ hu

/-- Delimited text with a header line that is written of a table of clean texts reads as that
table, for each delimiter that a configuration may name and that is no quote and no line end. -/
theorem toTable_read_toDelimited {t : Table} (ht : t.Legible) {delimiter : Option String}
    {header : Option Bool} {options : Options}
    (ho : Options.ofConfig delimiter header = .ok options) (hh : options.header = true)
    (hd : options.delimiter ∉ [quote, carriageReturn, lineFeed]) :
    ∃ sheet, Sheet.read options (encodeUtf8 (t.toDelimited options)) = .ok sheet ∧
      sheet.toTable = .ok t := by
  have husable : Usable options.delimiter := by
    simp only [List.mem_cons, List.not_mem_nil, or_false, not_or] at hd
    exact ⟨hd.1, hd.2.2, hd.2.1⟩
  refine ⟨⟨t.names, t.rows.map (·.map Cell.written)⟩, ?_, toTable_written ht⟩
  apply Sheet.read_write husable (lt_of_ofConfig ho) hh ht.names
  · intro row hrow cell hcell
    obtain ⟨cells, hcells, rfl⟩ := List.mem_map.1 hrow
    obtain ⟨c, hc, rfl⟩ := List.mem_map.1 hcell
    exact Cell.cleanCell_written (ht.cells cells hcells c hc)
  · intro row hrow
    obtain ⟨cells, hcells, rfl⟩ := List.mem_map.1 hrow
    simp [t.rect cells hcells, Table.names, Schema.names]
  · intro row hrow
    rcases List.mem_cons.1 hrow with rfl | hrow
    · exact ht.named
    · obtain ⟨cells, hcells, rfl⟩ := List.mem_map.1 hrow
      obtain ⟨c, hc, hne⟩ := ht.filled cells hcells
      exact ⟨_, List.mem_map_of_mem hc, Cell.written_ne_empty (ht.cells cells hcells c hc) hne⟩

def Table.ofNotes (notes : List (String × Option String)) : Table where
  fields := [⟨"id", .text⟩, ⟨"note", .text⟩]
  rows := notes.map fun (id, note) => [some (.text id), note.map Cell.text]
  rect := by
    intro row hrow
    obtain ⟨x, -, rfl⟩ := List.mem_map.1 hrow
    rfl
  distinct := by simp

theorem Table.legible_ofNotes {notes : List (String × Option String)}
    (hids : ∀ x ∈ notes, x.1 ≠ "" ∧ cleanCell x.1 = x.1)
    (hnotes : ∀ x ∈ notes, ∀ s ∈ x.2, s ≠ "" ∧ cleanCell s = s) :
    (Table.ofNotes notes).Legible where
  texts := by simp [Table.ofNotes]
  names := by
    have hnames : ∀ name ∈ ["id", "note"], cleanHeader name = name := by decide
    exact hnames
  named := ⟨"id", List.mem_cons_self, by decide⟩
  cells := by
    intro row hrow c hc
    obtain ⟨⟨id, note⟩, hx, rfl⟩ := List.mem_map.1 hrow
    simp only [List.mem_cons, List.not_mem_nil, or_false] at hc
    rcases hc with rfl | rfl
    · exact .inr ⟨id, rfl, hids _ hx⟩
    · cases note with
      | none => exact .inl rfl
      | some s => exact .inr ⟨s, rfl, hnotes _ hx s rfl⟩
  filled := by
    intro row hrow
    obtain ⟨⟨id, note⟩, -, rfl⟩ := List.mem_map.1 hrow
    exact ⟨_, List.mem_cons_self, Option.some_ne_none _⟩

/-- Notes with the delimiter, with quotes and over two lines, and one that is missing. -/
theorem toTable_read_toDelimited_notes :
    ∃ sheet, Sheet.read ⟨9, true⟩ (encodeUtf8 ((Table.ofNotes [("1", some "a\t\"b\""),
        ("2", none), ("3", some "two\nlines")]).toDelimited ⟨9, true⟩)) = .ok sheet ∧
      sheet.toTable = .ok (.ofNotes [("1", some "a\t\"b\""), ("2", none),
        ("3", some "two\nlines")]) := by
  have hlegible : (Table.ofNotes [("1", some "a\t\"b\""), ("2", none),
      ("3", some "two\nlines")]).Legible := Table.legible_ofNotes (by decide) (by decide)
  have hconfig : Options.ofConfig (some "\\t") none = .ok ⟨9, true⟩ := rfl
  exact toTable_read_toDelimited hlegible hconfig rfl (by decide)

end Tables

end TableAudit
