import TableAudit.Proofs.DelimitedTables
import TableAudit.Report.Basic

/-!
# Reports as delimited text

A report is written row by row, or as a table that has a column for each heading. The texts of a row
are what the columns show of it, in their order, so both ways the same records go to the file.
-/

namespace TableAudit

namespace ReportColumn

def cell : ReportColumn → ReportRow → Cell
  | text _ of, r => .text (of r)
  | count _ of, r => .int (of r)

def shown : ReportColumn → ReportRow → String
  | text _ of, r => of r
  | count _ of, r => Decimal.digitText (of r)

private theorem toText_cell (c : ReportColumn) (r : ReportRow) : (c.cell r).toText = c.shown r := by
  cases c with
  | text name of => rfl
  | count name of =>
    have hsign : decide ((of r : Int) < 0) = false := decide_eq_false (by omega)
    rw [cell, Cell.toText, Cell.intText, hsign, Int.natAbs_natCast]
    exact String.empty_append

private theorem name_toTable (c : ReportColumn) (rows : Report) :
    (c.toTable rows).1.name = c.name := by
  cases c <;> rfl

private theorem cells_toTable (c : ReportColumn) (rows : Report) :
    (c.toTable rows).2 = rows.map fun r => some (c.cell r) := by
  cases c <;> rfl

end ReportColumn

/-- The fields of a row stand in the order of the columns that show them. -/
theorem ReportRow.texts_eq_shown (r : ReportRow) : r.texts = ReportColumn.all.map (·.shown r) := rfl

namespace Report

private theorem nodup_columnNames : columnNames.Nodup := by decide

theorem names_toTable (r : Report) :
    ((ReportColumn.all.map (·.toTable r)).map (·.1)).map Field.name = columnNames := by
  rw [List.map_map, List.map_map]
  exact List.map_congr_left fun c _ => c.name_toTable r

/-- A report is a table under the headings of the report, whose rows are its rows. -/
theorem toTable_eq_ok (r : Report) :
    ∃ t, r.toTable = .ok t ∧ t.names = columnNames ∧
      t.rows = r.map fun row => ReportColumn.all.map fun c => some (c.cell row) := by
  have hdistinct : ((ReportColumn.all.map (·.toTable r)).map (·.1)).map Field.name |>.Nodup := by
    rw [names_toTable]
    exact nodup_columnNames
  obtain ⟨t, ht, hfields, hrows⟩ := Table.ofColumns_eq_ok hdistinct
  have hnames : t.names = columnNames := by rw [Table.names, Schema.names, hfields, names_toTable]
  have hheight : (((ReportColumn.all.map (·.toTable r)).head?).map (·.2.length)).getD 0 =
      r.length := by
    simp [ReportColumn.all, ReportColumn.toTable]
  refine ⟨t, ht, hnames, ?_⟩
  rw [hrows, hheight]
  apply List.ext_getElem (by simp)
  intro i hi hi'
  have hlt : i < r.length := by simpa using hi'
  simp [ReportColumn.cells_toTable, hlt]

/-- Through a table, the cells of a row are written as the texts of the row. -/
theorem written_cells (row : ReportRow) :
    (ReportColumn.all.map fun c => some (c.cell row)).map Cell.written = row.texts := by
  rw [row.texts_eq_shown, List.map_map]
  exact List.map_congr_left fun c _ => c.toText_cell row

/-- The table of a report has the texts of the report, and is written like it. -/
theorem toDelimited_toTable (r : Report) (options : Delimited.Options) :
    ∃ t, r.toTable = .ok t ∧ t.names = columnNames ∧
      t.rows.map (·.map Cell.written) = r.map ReportRow.texts ∧
      t.toDelimited options = r.toDelimited options := by
  obtain ⟨t, ht, hnames, hrows⟩ := r.toTable_eq_ok
  have htexts : t.rows.map (·.map Cell.written) = r.map ReportRow.texts := by
    rw [hrows, List.map_map]
    exact List.map_congr_left fun row _ => written_cells row
  refine ⟨t, ht, hnames, htexts, ?_⟩
  calc t.toDelimited options
      = Delimited.write options t.names (t.rows.map (·.map Cell.written)) := rfl
    _ = r.toDelimited options := by rw [hnames, htexts]; rfl

/-- Without rows, there is nothing but the header line, if there is to be one. -/
theorem toDelimited_nil (options : Delimited.Options) :
    toDelimited [] options = if options.header then
      Delimited.writeRecord (Char.ofNat options.delimiter.toNat) columnNames else "" := by
  cases h : options.header <;> simp [toDelimited, Delimited.write, h, String.join]

end Report

/-- A report always makes up a table. Its columns are those of the report, it has the texts of each
row in the order of the fields, and it is written as the report is, with any delimiter and with a
header line or without. A report without rows is its header line, if there is to be one. -/
theorem text_of_report (r : Report) (options : Delimited.Options) :
    (∃ t, r.toTable = .ok t ∧ t.names = Report.columnNames ∧
      t.rows.map (·.map Cell.written) = r.map ReportRow.texts ∧
      t.toDelimited options = r.toDelimited options) ∧
    ∃ t, Report.toTable [] = .ok t ∧ t.toDelimited options = Report.toDelimited [] options ∧
      Report.toDelimited [] options = if options.header then
        Delimited.writeRecord (Char.ofNat options.delimiter.toNat) Report.columnNames else "" := by
  obtain ⟨empty, hempty, -, -, hsame⟩ := Report.toDelimited_toTable [] options
  exact ⟨r.toDelimited_toTable options, empty, hempty, hsame, Report.toDelimited_nil options⟩

end TableAudit
