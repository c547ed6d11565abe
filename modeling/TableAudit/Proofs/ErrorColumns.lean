import Mathlib.Data.List.Forall2
import TableAudit.Proofs.Runs

/-!
# Columns of the error table

Behind the columns of a table its error table has those of the tags, and a row of it is a failing
row with two more cells. A table that has a column of the name of a tag is the exception: the tag
takes the place of that column, and the cells that stood there are lost.
-/

namespace TableAudit

section Tags

variable {s : Schema} {r : Row} {name text : String}

private theorem withText_of_not_mem (h : name ∉ s.names) :
    s.withText name = s ++ [⟨name, .text⟩] := by
  have hi : s.index? name = none := Schema.index?_eq_none.2 h
  simp only [Schema.withText, hi]

theorem Row.withText_of_not_mem (h : name ∉ s.names) :
    r.withText s name text = r ++ [some (.text text)] := by
  have hi : s.index? name = none := Schema.index?_eq_none.2 h
  simp only [Row.withText, hi]

theorem mem_names_withText {other : String} :
    other ∈ (s.withText name).names ↔ other ∈ s.names ∨ other = name := by
  rw [names_withText]
  split
  · next h =>
    have hn : name ∈ s.names := Schema.has_eq_true.1 h
    constructor
    · exact .inl
    · rintro (ho | rfl)
      · exact ho
      · exact hn
  · simp

/-- The tags whose names no column has are appended, in their order. -/
theorem names_tagged (s : Schema) :
    s.tagged.names = s.names ++ [errorColumn, runTimeColumn].filter (· ∉ s.names) := by
  have hne : runTimeColumn ≠ errorColumn := by decide
  have hrun : runTimeColumn ∈ (s.withText errorColumn).names ↔ runTimeColumn ∈ s.names := by
    rw [mem_names_withText, or_iff_left hne]
  simp only [Schema.tagged, names_withText _ runTimeColumn, Schema.has_eq_true, hrun]
  simp only [names_withText, Schema.has_eq_true]
  by_cases he : errorColumn ∈ s.names <;> by_cases hr : runTimeColumn ∈ s.names <;> simp [he, hr]

private theorem runTime_not_mem (hr : runTimeColumn ∉ s.names) :
    runTimeColumn ∉ (s.withText errorColumn).names := by
  have hne : runTimeColumn ≠ errorColumn := by decide
  rw [mem_names_withText]
  exact not_or.2 ⟨hr, hne⟩

private theorem tagged_of_not_mem (he : errorColumn ∉ s.names) (hr : runTimeColumn ∉ s.names) :
    s.tagged = s ++ [⟨errorColumn, .text⟩, ⟨runTimeColumn, .text⟩] := by
  have h := runTime_not_mem hr
  rw [Schema.tagged, withText_of_not_mem h, withText_of_not_mem he, List.append_assoc]
  rfl

theorem Row.tagged_of_not_mem (he : errorColumn ∉ s.names) (hr : runTimeColumn ∉ s.names)
    (requirement runTime : String) :
    r.tagged s requirement runTime = r ++ [some (.text requirement), some (.text runTime)] := by
  have h := runTime_not_mem hr
  rw [Row.tagged, Row.withText_of_not_mem h, Row.withText_of_not_mem he, List.append_assoc]
  rfl

end Tags

namespace Outcome

/-- The violating rows of an outcome are rows chosen from a table. -/
def Selects (o : Outcome) (t : Table) : Prop :=
  ∀ rows, o.violating = some rows → ∃ marks, rows = t.select marks

variable {o : Outcome} {t : Table}

theorem Selects.keeps (h : o.Selects t) : o.Keeps t.fields := by
  intro rows hv
  obtain ⟨marks, rfl⟩ := h rows hv
  rfl

def writtenRows (o : Outcome) : List (Outcome × Row) :=
  match o.written? with
  | some rows => rows.rows.map (o, ·)
  | none => []

theorem errorRows_eq_map (o : Outcome) (s : Schema) (runTime : String) :
    o.errorRows s runTime = o.writtenRows.map fun (o, r) => r.tagged s o.requirement runTime := by
  unfold errorRows writtenRows
  cases o.written? with
  | none => rfl
  | some rows => simp

theorem Selects.mem_rows (h : o.Selects t) {p : Outcome × Row} (hp : p ∈ o.writtenRows) :
    p.2 ∈ t.rows := by
  unfold writtenRows at hp
  split at hp
  · next rows hw =>
    obtain ⟨marks, rfl⟩ := h rows (violating_of_written hw)
    obtain ⟨r, hr, rfl⟩ := List.mem_map.1 hp
    exact mem_of_mem_marked hr
  · cases hp

end Outcome

theorem selects_outcomeOf (i : Instance) (t : Table) (entity : String) (f : Finding) :
    (i.outcomeOf t entity f).Selects t := by
  intro rows h
  obtain ⟨-, rfl⟩ := Instance.violating_outcomeOf.1 h
  exact ⟨f.failed, rfl⟩

/-- The error table of outcomes that keep rows of a table. Each of its rows has all cells of the
failing row that it comes from, apart from those under the names of the tags; if the table has no
columns of these names, its columns are all there and the tags stand behind them. -/
theorem columns_of_errors {outcomes : List Outcome} {subject : Table}
    (h : ∀ o ∈ outcomes, o.Selects subject) (runTime : String) :
    ∃ errors, errorTable outcomes subject runTime = .ok errors ∧
      errors.names = subject.names ++ [errorColumn, runTimeColumn].filter (· ∉ subject.names) ∧
      List.Forall₂ (fun (o, r) tagged => r ∈ subject.rows ∧
          TagsOf subject.fields errors.fields o.requirement runTime r tagged)
        (outcomes.flatMap Outcome.writtenRows) errors.rows ∧
      (errors.names = subject.names ++ [errorColumn, runTimeColumn] ↔
        errorColumn ∉ subject.names ∧ runTimeColumn ∉ subject.names) ∧
      (errorColumn ∉ subject.names → runTimeColumn ∉ subject.names →
        errors.fields = subject.fields ++ [⟨errorColumn, .text⟩, ⟨runTimeColumn, .text⟩] ∧
        errors.rows = (outcomes.flatMap Outcome.writtenRows).map fun (o, r) =>
          r ++ [some (.text o.requirement), some (.text runTime)]) := by
  have hkeeps : ∀ o ∈ outcomes, o.Keeps subject.fields := fun o ho => (h o ho).keeps
  obtain ⟨errors, he, hf, hrows⟩ := errorTable_eq_ok hkeeps runTime
  have hnames : errors.names =
      subject.names ++ [errorColumn, runTimeColumn].filter (· ∉ subject.names) := by
    rw [Table.names, hf, names_tagged]
    rfl
  have htagged : errors.rows = (outcomes.flatMap Outcome.writtenRows).map fun (o, r) =>
      r.tagged subject.fields o.requirement runTime := by
    rw [hrows, List.map_flatMap]
    exact congrArg (List.flatMap · outcomes) (funext fun o => o.errorRows_eq_map _ _)
  refine ⟨errors, he, hnames, ?_, ?_, ?_⟩
  · rw [htagged, hf, List.forall₂_map_right_iff, List.forall₂_same]
    rintro ⟨o, r⟩ hp
    obtain ⟨o', ho, hp⟩ := List.mem_flatMap.1 hp
    have hr : r ∈ subject.rows := (h o' ho).mem_rows hp
    exact ⟨hr, tagsOf_tagged (subject.rect r hr) _ _⟩
  · rw [hnames, List.append_cancel_left_eq, List.filter_eq_self]
    simp
  · intro herror hrun
    refine ⟨hf.trans (tagged_of_not_mem herror hrun), htagged.trans ?_⟩
    apply List.map_congr_left
    rintro ⟨o, r⟩ -
    exact Row.tagged_of_not_mem herror hrun _ _

def Outcome.ofNullCheck (field : String) (t : Table) (failed : List Bool) : Outcome :=
  (Instance.mk (.plain ⟨"101", .nullCheck, .columns [field], 100, true⟩ .fields) [field]).outcomeOf
    t "CLIENTS" (.full failed)

/-- The second of two names is missing. -/
theorem columns_of_errors_names :
    (Outcome.ofNullCheck "name" (.ofTexts "name" [some "x", none]) [false, true]).Selects
        (.ofTexts "name" [some "x", none]) ∧
      ∃ errors, errorTable
          [.ofNullCheck "name" (.ofTexts "name" [some "x", none]) [false, true]]
          (.ofTexts "name" [some "x", none]) "2024-06-01 10:30:00" = .ok errors ∧
        errors.names = ["name", "error", "run_time"] ∧
        errors.rows =
          [[none, some (.text "Nulos - name"), some (.text "2024-06-01 10:30:00")]] := by
  have hs : ∀ o ∈ [Outcome.ofNullCheck "name" (.ofTexts "name" [some "x", none]) [false, true]],
      o.Selects (.ofTexts "name" [some "x", none]) :=
    List.forall_mem_singleton.2 (selects_outcomeOf _ _ _ _)
  obtain ⟨errors, he, hnames, -, -, hrows⟩ := columns_of_errors hs "2024-06-01 10:30:00"
  refine ⟨hs _ List.mem_cons_self, errors, he, hnames.trans (by decide), ?_⟩
  obtain ⟨-, hrows⟩ := hrows (by decide) (by decide)
  exact hrows.trans rfl

/-- A table that has a column for errors already: its name is not there twice, and what the failing
row had under it is gone. -/
theorem error_column_overwritten :
    (Outcome.ofNullCheck "error" (.ofTexts "error" [some "old"]) [true]).Selects
        (.ofTexts "error" [some "old"]) ∧
      ∃ errors tagged, errorTable
          [.ofNullCheck "error" (.ofTexts "error" [some "old"]) [true]]
          (.ofTexts "error" [some "old"]) "2024-06-01 10:30:00" = .ok errors ∧
        errors.names ≠ (Table.ofTexts "error" [some "old"]).names ++ ["error", "run_time"] ∧
        errors.rows = [tagged] ∧
        some (.text "old") ∉ tagged := by
  have hs : (Outcome.ofNullCheck "error" (.ofTexts "error" [some "old"]) [true]).Selects
      (.ofTexts "error" [some "old"]) := selects_outcomeOf _ _ _ _
  obtain ⟨errors, he, hf, hrows⟩ :=
    errorTable_eq_ok (List.forall_mem_singleton.2 hs.keeps) "2024-06-01 10:30:00"
  refine ⟨hs, errors,
    [some (.text "Nulos - error"), some (.text "2024-06-01 10:30:00")], he, ?_, hrows, ?_⟩
  · have hn : errors.names = ["error", "run_time"] := by
      rw [Table.names, hf]
      rfl
    rw [hn]
    decide
  · simp

end TableAudit
