import TableAudit.Audit.Errors
import TableAudit.Proofs.Steps

/-!
# The error table

Rows are tagged by two texts under fixed names. Whatever columns a table has, each tagged row bears
its two tags and keeps all other cells, and all tagged rows have the same columns. So stacking them
never fails, and it puts them one below the other.
-/

namespace TableAudit

namespace Schema

def cell (s : Schema) (r : Row) (name : String) : Option Cell :=
  (s.index? name).bind fun i => (r[i]?).join

/-- The fields of a table that has the same text in every row under a name. -/
def withText (s : Schema) (name : String) : Schema :=
  match s.index? name with
  | some i => s.set i ⟨name, .text⟩
  | none => s ++ [⟨name, .text⟩]

def tagged (s : Schema) : Schema := (s.withText errorColumn).withText runTimeColumn

end Schema

namespace Row

/-- A row of a table with these fields, with a text put under a name. -/
def withText (r : Row) (s : Schema) (name text : String) : Row :=
  match s.index? name with
  | some i => r.set i (some (.text text))
  | none => r ++ [some (.text text)]

def tagged (r : Row) (s : Schema) (requirement runTime : String) : Row :=
  (r.withText s errorColumn requirement).withText (s.withText errorColumn) runTimeColumn runTime

end Row

namespace Table

variable (t : Table) (name text : String)

theorem fields_withConstant : (t.withConstant name text).fields = t.fields.withText name := by
  unfold withConstant Schema.withText
  split <;> simp_all

private theorem rows_withConstant :
    (t.withConstant name text).rows = t.rows.map (·.withText t.fields name text) := by
  unfold withConstant Row.withText
  split <;> simp_all

end Table

theorem fields_tagged (t : Table) (requirement runTime : String) :
    (tagged t requirement runTime).fields = t.fields.tagged := by
  simp only [tagged, Table.fields_withConstant, Schema.tagged]

theorem rows_tagged (t : Table) (requirement runTime : String) :
    (tagged t requirement runTime).rows = t.rows.map (·.tagged t.fields requirement runTime) := by
  simp only [tagged, Table.fields_withConstant, Table.rows_withConstant, List.map_map]
  rfl

section Cells

variable {s : Schema} {r : Row} {name other text : String}

theorem index?_eq_findIdx?_names (s : Schema) (name : String) :
    s.index? name = s.names.findIdx? (· == name) := by
  simp only [Schema.index?, Schema.names, List.findIdx?_map]
  rfl

theorem names_withText (s : Schema) (name : String) :
    (s.withText name).names = if s.has name then s.names else s.names ++ [name] := by
  unfold Schema.withText Schema.has
  cases h : s.index? name with
  | some i => simpa [Schema.names] using Table.names_set_self h .text
  | none => simp [Schema.names]

private theorem index?_withText_of_ne (h : other ≠ name) :
    (s.withText name).index? other = s.index? other := by
  simp only [index?_eq_findIdx?_names, names_withText]
  split
  · rfl
  · simp [List.findIdx?_append, Ne.symm h]

private theorem index?_withText_self :
    (s.withText name).index? name = some ((s.index? name).getD s.length) := by
  simp only [index?_eq_findIdx?_names (s.withText name), names_withText]
  cases h : s.index? name with
  | some i => simp [Schema.has, h, ← index?_eq_findIdx?_names]
  | none =>
    have hn : s.names.findIdx? (· == name) = none := by rw [← index?_eq_findIdx?_names, h]
    have hl : s.names.length = s.length := List.length_map _
    simp [Schema.has, h, List.findIdx?_append, hn, hl]

@[simp] theorem length_withText (h : r.length = s.length) :
    (r.withText s name text).length = (s.withText name).length := by
  unfold Row.withText Schema.withText
  split <;> simp [h]

private theorem cell_withText_self (h : r.length = s.length) :
    (s.withText name).cell (r.withText s name text) name = some (.text text) := by
  simp only [Schema.cell, index?_withText_self, Row.withText]
  cases hi : s.index? name with
  | some i =>
    have hlt : i < s.length := (List.findIdx?_eq_some_iff_getElem.1 hi).1
    simp [h, hlt]
  | none => simp [h]

private theorem cell_withText_of_ne (h : r.length = s.length) (hne : other ≠ name) :
    (s.withText name).cell (r.withText s name text) other = s.cell r other := by
  simp only [Schema.cell, index?_withText_of_ne hne]
  cases ho : s.index? other with
  | none => rfl
  | some j =>
    obtain ⟨hj, hother, -⟩ := List.findIdx?_eq_some_iff_getElem.1 ho
    unfold Row.withText
    cases hi : s.index? name with
    | none => simp [List.getElem?_append_left (h ▸ hj)]
    | some i =>
      have hij : i ≠ j := by
        rintro rfl
        obtain ⟨_, hname, -⟩ := List.findIdx?_eq_some_iff_getElem.1 hi
        exact hne ((eq_of_beq hother).symm.trans (eq_of_beq hname))
      simp [hij]

end Cells

/-- What a row of the error table has to do with the row that it comes from. -/
structure TagsOf (s errors : Schema) (requirement runTime : String) (r tagged : Row) : Prop where
  error : errors.cell tagged errorColumn = some (.text requirement)
  runTime : errors.cell tagged runTimeColumn = some (.text runTime)
  others : ∀ name, name ≠ errorColumn → name ≠ runTimeColumn →
    errors.cell tagged name = s.cell r name

theorem tagsOf_tagged {s : Schema} {r : Row} (h : r.length = s.length)
    (requirement runTime : String) :
    TagsOf s s.tagged requirement runTime r (r.tagged s requirement runTime) where
  error := by
    have hne : errorColumn ≠ runTimeColumn := by decide
    exact (cell_withText_of_ne (length_withText h) hne).trans (cell_withText_self h)
  runTime := cell_withText_self (length_withText h)
  others name he hr :=
    (cell_withText_of_ne (length_withText h) hr).trans (cell_withText_of_ne h he)

theorem Table.stack_eq_ok {t u : Table} (h : t.fields = u.fields) :
    ∃ v, t.stack u = .ok v ∧ v.fields = t.fields ∧ v.rows = t.rows ++ u.rows := by
  refine ⟨_, dif_pos h, rfl, rfl⟩

namespace Outcome

/-- The violating rows of an outcome have the fields of a table. -/
def Keeps (o : Outcome) (s : Schema) : Prop := ∀ rows, o.violating = some rows → rows.fields = s

def errorRows (o : Outcome) (s : Schema) (runTime : String) : List Row :=
  match o.written? with
  | some rows => rows.rows.map (·.tagged s o.requirement runTime)
  | none => []

theorem violating_of_written {o : Outcome} {rows : Table} (h : o.written? = some rows) :
    o.violating = some rows := by
  unfold written? at h
  split at h
  · exact h
  · simp at h

theorem Keeps.written {o : Outcome} {s : Schema} (h : o.Keeps s) {rows : Table}
    (hw : o.written? = some rows) : rows.fields = s := h rows (violating_of_written hw)

end Outcome

def addErrors (runTime : String) (errors : Table) (o : Outcome) : Except TableError Table :=
  match o.written? with
  | some rows => errors.stack (tagged rows o.requirement runTime)
  | none => .ok errors

private theorem errorTable_eq_foldlM (outcomes : List Outcome) (subject : Table)
    (runTime : String) :
    errorTable outcomes subject runTime =
      outcomes.foldlM (addErrors runTime) (tagged subject.cleared "" runTime) := rfl

section Stacking

variable {s : Schema} {errors : Table} (runTime : String)

theorem addErrors_eq_ok {o : Outcome} (he : errors.fields = s.tagged) (ho : o.Keeps s) :
    ∃ more, addErrors runTime errors o = .ok more ∧ more.fields = s.tagged ∧
      more.rows = errors.rows ++ o.errorRows s runTime := by
  unfold addErrors Outcome.errorRows
  cases hw : o.written? with
  | none => exact ⟨errors, rfl, he, by simp⟩
  | some rows =>
    have hs := ho.written hw
    have hf : errors.fields = (tagged rows o.requirement runTime).fields := by
      rw [fields_tagged, hs, he]
    obtain ⟨more, hm, hmf, hmr⟩ := Table.stack_eq_ok hf
    refine ⟨more, hm, hmf.trans he, ?_⟩
    rw [hmr, rows_tagged, hs]

theorem foldlM_addErrors_eq_ok {outcomes : List Outcome} (he : errors.fields = s.tagged)
    (ho : ∀ o ∈ outcomes, o.Keeps s) :
    ∃ all, outcomes.foldlM (addErrors runTime) errors = .ok all ∧ all.fields = s.tagged ∧
      all.rows = errors.rows ++ outcomes.flatMap (·.errorRows s runTime) := by
  induction outcomes generalizing errors with
  | nil => exact ⟨errors, rfl, he, by simp⟩
  | cons o outcomes ih =>
    obtain ⟨more, hm, hmf, hmr⟩ := addErrors_eq_ok runTime he (ho o List.mem_cons_self)
    obtain ⟨all, ha, haf, har⟩ := ih hmf fun o h => ho o (List.mem_cons_of_mem _ h)
    refine ⟨all, ?_, haf, ?_⟩
    · rw [List.foldlM_cons, hm]
      exact ha
    · rw [har, hmr, List.append_assoc, List.flatMap_cons]

end Stacking

/-- Building the error table never fails: it has the rows of each outcome in turn. -/
theorem errorTable_eq_ok {outcomes : List Outcome} {subject : Table}
    (h : ∀ o ∈ outcomes, o.Keeps subject.fields) (runTime : String) :
    ∃ errors, errorTable outcomes subject runTime = .ok errors ∧
      errors.fields = subject.fields.tagged ∧
      errors.rows = outcomes.flatMap (·.errorRows subject.fields runTime) := by
  have hf : (tagged subject.cleared "" runTime).fields = subject.fields.tagged := fields_tagged ..
  obtain ⟨errors, he, hef, her⟩ := foldlM_addErrors_eq_ok runTime hf h
  refine ⟨errors, errorTable_eq_foldlM outcomes subject runTime ▸ he, hef, ?_⟩
  rw [her, rows_tagged]
  rfl

/-- Neither does summing outcomes up, which leaves them as they are. -/
theorem aggregate_eq_ok {outcomes : List Outcome} {subject : Table}
    (h : ∀ o ∈ outcomes, o.Keeps subject.fields) (runTime : String) :
    ∃ a, aggregate outcomes subject runTime = .ok a ∧ a.results = outcomes ∧
      a.errors.fields = subject.fields.tagged ∧
      a.errors.rows = outcomes.flatMap (·.errorRows subject.fields runTime) := by
  obtain ⟨errors, he, hf, hr⟩ := errorTable_eq_ok h runTime
  exact ⟨⟨outcomes, errors⟩, map_eq_ok.2 ⟨errors, he, rfl⟩, rfl, hf, hr⟩

end TableAudit
