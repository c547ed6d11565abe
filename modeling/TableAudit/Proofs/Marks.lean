import TableAudit.Check.Evaluate
import TableAudit.Proofs.Steps

/-!
# Rows chosen by marks

Marking the rows that satisfy a predicate is filtering them. Verdicts on the marked rows, spread
over all of them, choose from the whole table the rows that they choose from the marked ones.
-/

namespace TableAudit

variable {α : Type}

@[simp] theorem marked_nil (marks : List Bool) : marked marks ([] : List α) = [] := by
  simp [marked]

@[simp] theorem marked_nil_marks (items : List α) : marked [] items = [] := by
  simp [marked]

@[simp] theorem marked_cons (m : Bool) (marks : List Bool) (a : α) (items : List α) :
    marked (m :: marks) (a :: items) =
      if m then a :: marked marks items else marked marks items := by
  cases m <;> simp [marked]

theorem marked_map (p : α → Bool) (items : List α) :
    marked (items.map p) items = items.filter p := by
  induction items with
  | nil => simp
  | cons a items ih => cases h : p a <;> simp [h, ih]

@[simp] theorem length_spread (marks verdicts : List Bool) :
    (spread marks verdicts).length = marks.length := by
  fun_induction spread marks verdicts <;> simp_all

/-- As many verdicts as there are marked positions are all used. -/
theorem count_spread {marks verdicts : List Bool} (h : verdicts.length = marks.count true) :
    (spread marks verdicts).count true = verdicts.count true := by
  fun_induction spread marks verdicts with
  | case1 verdicts => simp_all
  | case2 marks verdicts ih => simpa using ih (by simpa using h)
  | case3 marks ih => simp at h
  | case4 marks v verdicts ih =>
    have hl : verdicts.length = marks.count true := by simpa using h
    simp [List.count_cons, ih hl]

/-- Choosing by spread verdicts is choosing by the marks first and by the verdicts then. -/
theorem marked_spread (marks verdicts : List Bool) (items : List α) :
    marked (spread marks verdicts) items = marked verdicts (marked marks items) := by
  induction items generalizing marks verdicts with
  | nil => simp
  | cons a items ih =>
    match marks, verdicts with
    | [], verdicts => simp [spread]
    | false :: marks, verdicts => simp [spread, ih]
    | true :: marks, [] => simp [spread, ih]
    | true :: marks, v :: verdicts => cases v <;> simp [spread, ih]

namespace Table

theorem eq_of_rows {t u : Table} (hf : t.fields = u.fields) (hr : t.rows = u.rows) : t = u := by
  cases t
  cases u
  cases hf
  cases hr
  rfl

theorem height_select {t : Table} {marks : List Bool} (h : marks.length = t.height) :
    (t.select marks).height = marks.count true := length_marked marks t.rows h

theorem select_spread (t : Table) (marks verdicts : List Bool) :
    t.select (spread marks verdicts) = (t.select marks).select verdicts :=
  eq_of_rows rfl (marked_spread marks verdicts t.rows)

theorem select_map (t : Table) (p : Row → Bool) : t.select (t.rows.map p) = t.filter p :=
  eq_of_rows rfl (marked_map p t.rows)

theorem keep_eq_ok {t : Table} {marks : List Bool} (h : marks.length = t.height) :
    t.keep marks = .ok (t.select marks) := by
  simp [keep, h]

theorem length_filterMask {t : Table} {condition : Condition} {filters : List RowFilter}
    {marks : List Bool} (h : t.filterMask condition filters = .ok marks) :
    marks.length = t.height := by
  obtain ⟨p, -, rfl⟩ := map_eq_ok.1 h
  simp [height]

/-- Filtering is choosing by the mask of the filters, errors included. -/
theorem filterBy_eq_select (t : Table) (condition : Condition) (filters : List RowFilter) :
    t.filterBy condition filters = (t.filterMask condition filters).map t.select := by
  cases hp : RowFilter.prepareAll condition filters t.fields with
  | error e => simp [filterBy, filterMask, hp, Except.map]
  | ok p => simp [filterBy, filterMask, hp, Except.map, select_map]

end Table

end TableAudit
