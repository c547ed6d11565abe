import TableAudit.Audit.Run
import TableAudit.Proofs.Marks
import TableAudit.Proofs.Preparation

/-!
# Findings that fit their table

A rule that can be evaluated has a verdict for each row of the table, and it tests no more rows than
there are and fails no more than it tests. So the failing rows can always be taken out of the table,
and the outcome of an instance is a function of its finding.
-/

namespace TableAudit

/-- What counts and verdicts have to do with a table. -/
structure Finding.Fits (f : Finding) (t : Table) : Prop where
  length_failed : f.failed.length = t.height
  failed_le_tested : f.failedCount ≤ f.tested
  tested_le_height : f.tested ≤ t.height

namespace Finding

variable {t : Table}

theorem fits_full {failed : List Bool} (h : failed.length = t.height) : (full failed).Fits t where
  length_failed := h
  failed_le_tested := List.count_le_length
  tested_le_height := Nat.le_of_eq h

private theorem count_zipWith_and_le (failed eligible : List Bool) :
    (failed.zipWith (· && ·) eligible).count true ≤ eligible.count true := by
  induction failed generalizing eligible with
  | nil => simp
  | cons b failed ih =>
    cases eligible with
    | nil => simp
    | cons e eligible =>
      have h := ih eligible
      cases b <;> cases e <;> simp <;> omega

private theorem fits_ofEligible {eligible failed : List Bool} (he : eligible.length = t.height)
    (hf : failed.length = t.height) : (ofEligible eligible failed).Fits t where
  length_failed := by simp [ofEligible, he, hf]
  failed_le_tested := count_zipWith_and_le failed eligible
  tested_le_height := he ▸ List.count_le_length

private theorem fits_of_judge {c : RowCheck} {f : Finding} (h : c.judge t.rows = .ok f) :
    f.Fits t := by
  unfold RowCheck.judge at h
  split at h <;> cases h
  exact fits_ofEligible (by simp [Table.height]) (by simp [Table.height])

end Finding

private theorem fits_unique {t : Table} {fields : List String} {f : Finding}
    (h : GroupCheck.unique t fields = .ok f) : f.Fits t := by
  simp only [GroupCheck.unique, bind_eq_ok, mapError_eq_ok, pure_eq_ok] at h
  obtain ⟨counts, hc, rfl⟩ := h
  simp only [Table.groupCounts, Table.keys, map_eq_ok] at hc
  obtain ⟨keys, ⟨columns, -, rfl⟩, rfl⟩ := hc
  exact Finding.fits_full (by simp [occurrences, Table.height])

private theorem fits_trend {t : Table} {field : String} {groupFields : List String}
    {method : TrendMethod} {f : Finding}
    (h : GroupCheck.trend t field groupFields method = .ok f) : f.Fits t := by
  simp only [GroupCheck.trend, bind_eq_ok] at h
  obtain ⟨values, -, h⟩ := h
  split at h <;>
  · simp only [bind_eq_ok, pure_eq_ok] at h
    obtain ⟨groups, -, rfl⟩ := h
    exact Finding.fits_full (by simp [GroupCheck.scatter])

theorem Check.fits_of_evaluate {c : Check} {kind : RuleKind} {fields : List String} {t : Table}
    {ctx : Context} {f : Finding} (h : c.evaluate kind fields t ctx = .ok f) : f.Fits t := by
  cases hc : c.comparesRows kind with
  | false =>
    obtain ⟨p, hp⟩ := exists_preparedTo hc fields t.fields ctx
    rw [hp.evaluate_eq t rfl] at h
    obtain ⟨check, -, hjudge⟩ := bind_eq_ok.1 h
    exact Finding.fits_of_judge hjudge
  | true =>
    cases c with
    | fields =>
      have hk : kind = .duplicateCheck := by simpa [comparesRows] using hc
      exact fits_unique (by simpa only [evaluate, if_pos hk] using h)
    | valueTrend => exact fits_trend h
    | _ => simp [comparesRows] at hc

namespace Finding

/-- The finding on the marked rows of a table as one on all of its rows. -/
def spread (marks : List Bool) (f : Finding) : Finding :=
  ⟨f.tested, TableAudit.spread marks f.failed⟩

variable {f : Finding} {t : Table} {marks : List Bool}

theorem failedCount_spread (hm : marks.length = t.height) (h : f.Fits (t.select marks)) :
    (f.spread marks).failedCount = f.failedCount :=
  count_spread (h.length_failed.trans (Table.height_select hm))

theorem Fits.spread (hm : marks.length = t.height) (h : f.Fits (t.select marks)) :
    (f.spread marks).Fits t where
  length_failed := (length_spread marks f.failed).trans hm
  failed_le_tested := failedCount_spread hm h ▸ h.failed_le_tested
  tested_le_height := by
    have hs : marks.count true ≤ marks.length := List.count_le_length
    have ht := h.tested_le_height
    rw [Table.height_select hm] at ht
    change f.tested ≤ t.height
    omega

end Finding

namespace Rule

variable {t : Table} {fields : List String} {ctx : Context}

theorem evaluate_conditional {h : RuleHead} {condition : Condition} {filters : List RowFilter}
    {inner : Rule} {marks : List Bool} (hm : t.filterMask condition filters = .ok marks) :
    (Rule.conditional h condition filters inner).evaluate fields ctx t =
      (inner.evaluate fields ctx (t.select marks)).map (·.spread marks) := by
  have hmarks : (t.filterMask condition filters).mapError CheckError.table = .ok marks :=
    mapError_eq_ok.2 hm
  simp only [evaluate, hmarks, bind, Except.bind]
  cases inner.evaluate fields ctx (t.select marks) <;> rfl

/-- The verdicts of any rule fit the table, however deep its conditions nest. -/
theorem fits_of_evaluate {r : Rule} {f : Finding} (h : r.evaluate fields ctx t = .ok f) :
    f.Fits t := by
  induction r generalizing t f with
  | plain head check => exact Check.fits_of_evaluate h
  | conditional head condition filters inner ih =>
    have hsteps := h
    simp only [evaluate, bind_eq_ok, mapError_eq_ok] at hsteps
    obtain ⟨marks, hm, -⟩ := hsteps
    rw [evaluate_conditional hm, map_eq_ok] at h
    obtain ⟨g, hg, rfl⟩ := h
    exact (ih hg).spread (Table.length_filterMask hm)

end Rule

namespace Instance

def outcomeOf (i : Instance) (t : Table) (entity : String) (f : Finding) : Outcome :=
  i.outcome entity f.tested f.failedCount
    (if i.head.writes && f.failedCount > 0 then some (t.select f.failed) else none)

/-- The rows that an outcome keeps are the failing rows of its table. -/
theorem violating_outcomeOf {i : Instance} {t rows : Table} {entity : String} {f : Finding} :
    (i.outcomeOf t entity f).violating = some rows ↔
      (i.head.writes && f.failedCount > 0) = true ∧ rows = t.select f.failed := by
  simp only [outcomeOf, outcome]
  split
  · next hw => simp [hw, eq_comm]
  · next hw => simp [hw]

/-- Once a rule is evaluated, its failing rows can be taken out of the table. -/
theorem score_eq (i : Instance) (t : Table) (ctx : Context) (entity : String) :
    i.score t ctx entity = (i.rule.evaluate i.fields ctx t).map (i.outcomeOf t entity) := by
  unfold score
  cases h : i.rule.evaluate i.fields ctx t with
  | error e => rfl
  | ok f =>
    have hf := Rule.fits_of_evaluate h
    simp only [bind, Except.bind, Except.map, outcomeOf]
    split
    · rw [Table.keep_eq_ok hf.length_failed]
      rfl
    · rfl

end Instance

end TableAudit
