import TableAudit.Check.Basic
import TableAudit.Proofs.AntiJoin

/-!
# Keys by names

The key of a row under names is the list of its texts. A table has keys under all names that its
columns bear and under no others, and a complete key is one without missing texts.
-/

namespace TableAudit

namespace Schema

variable {s : Schema} {r : Row} {names : List String}

theorem column_eq_ok_iff {name : String} : (∃ i, s.column name = .ok i) ↔ name ∈ s.names := by
  rw [← has_eq_true, column, has]
  cases s.index? name <;> simp

theorem columns_eq_ok_iff : (∃ is, s.columns names = .ok is) ↔ ∀ name ∈ names, name ∈ s.names := by
  induction names with
  | nil => exact ⟨fun _ name hn => absurd hn List.not_mem_nil, fun _ => ⟨[], rfl⟩⟩
  | cons name names ih =>
    have hcons : (∃ is, s.columns (name :: names) = .ok is) ↔
        (∃ i, s.column name = .ok i) ∧ ∃ is, s.columns names = .ok is := by
      unfold columns
      simp only [List.mapM_cons, bind_eq_ok, pure_eq_ok]
      constructor
      · rintro ⟨_, i, hi, is, his, -⟩
        exact ⟨⟨i, hi⟩, is, his⟩
      · rintro ⟨⟨i, hi⟩, is, his⟩
        exact ⟨_, i, hi, is, his, rfl⟩
    rw [hcons, column_eq_ok_iff, ih, List.forall_mem_cons]

theorem key?_eq_some {k : List String} :
    s.key? r names = some k ↔ s.texts r names = k.map some := by
  induction names generalizing k with
  | nil => cases k <;> simp [key?, texts]
  | cons name names ih =>
    have htexts : s.texts r (name :: names) =
      (s.cell r name).map Cell.toText :: s.texts r names := rfl
    rw [key?_cons, htexts]
    cases (s.cell r name).map Cell.toText with
    | none => cases k <;> simp
    | some text =>
      cases k with
      | nil => simp
      | cons first k => simpa [ih] using and_comm

theorem none_mem_texts : none ∈ s.texts r names ↔ s.key? r names = none := by
  simp [key?_eq_none, texts]

end Schema

namespace Table

variable {t : Table} {names : List String}

theorem keys_eq_ok (h : ∀ name ∈ names, name ∈ t.names) :
    t.keys names = .ok (t.rows.map (t.fields.texts · names)) := by
  obtain ⟨is, his⟩ := Schema.columns_eq_ok_iff.2 h
  rw [keys, his]
  exact congrArg Except.ok (List.map_congr_left fun r _ => Schema.key_eq_texts his)

theorem keys_eq_ok_iff : (∃ ks, t.keys names = .ok ks) ↔ ∀ name ∈ names, name ∈ t.names := by
  constructor
  · rintro ⟨ks, hks⟩
    obtain ⟨is, his, -⟩ := map_eq_ok.1 hks
    exact Schema.columns_eq_ok_iff.1 ⟨is, his⟩
  · intro h
    exact ⟨_, keys_eq_ok h⟩

end Table

/-- A check finds any column of a table, and the texts in it are those of its name. -/
theorem exists_findColumn {t : Table} {field : String} (h : field ∈ t.names) :
    ∃ i, findColumn t.fields field = .ok i ∧
      ∀ row : Row, row.text? i = (t.fields.cell row field).map Cell.toText := by
  obtain ⟨i, hi⟩ := Schema.column_eq_ok_iff.2 h
  refine ⟨i, ?_, fun row => Schema.text?_eq_cell hi⟩
  rw [findColumn, hi]
  rfl

end TableAudit
