import TableAudit.Proofs.FloatBits
import TableAudit.Proofs.Gate
import TableAudit.Report.Basic

/-!
# The report of a run that its gate stops

The one row of such a report names no date and no country. All rows of the table count as tested and
as failed, so that the rates are those of a total failure as long as there are any rows. A table
without rows fails the gate as well, but where nothing was tested the rate of success is that of a
table without flaws.
-/

namespace TableAudit

section Rates

/-- Where everything fails the rate of success is zero, unless there is nothing. -/
theorem successRate_self (n : Nat) :
    successRate n n = if n = 0 then 100 else Decimal.ofInt (0 : Nat) * 100 := by
  unfold successRate
  split
  · rfl
  · next h => rw [Nat.sub_self, Decimal.zero_div_ofInt (Nat.pos_of_ne_zero h)]

private theorem rateText_total : rateText (Decimal.ofInt (0 : Nat) * 100) = "0.00" ∧
    rateText (100 - Decimal.ofInt (0 : Nat) * 100) = "100.00" := ⟨rfl, rfl⟩

private theorem rateText_untested :
    rateText 100 = "100.00" ∧ rateText (100 - 100) = "0.00" := ⟨rfl, rfl⟩

private theorem cellText_hundred : Decimal.cellText 100 = "100" := by decide +kernel

end Rates

structure ReportRow.TotalFailure (row : ReportRow) (height : Nat) : Prop where
  dataDate : row.dataDate = "-"
  country : row.country = "-"
  threshold : row.threshold = "100"
  counts : row.tested = height ∧ row.passed = 0 ∧ row.failed = height

section Failures

variable (head : RuleHead) (required : List String) (message : String) (rows : Nat)
  (entity : String) (m : Metadata) (auditDate : String)

private theorem totalFailure_gateFailure :
    (ReportRow.ofOutcome (gateFailure head required message rows entity) m auditDate missingValue
      missingValue).TotalFailure rows where
  dataDate := rfl
  country := rfl
  threshold := by
    have h : (gateFailure head required message rows entity).threshold = 100 := rfl
    rw [ReportRow.ofOutcome, h]
    exact cellText_hundred
  counts := ⟨rfl, Nat.sub_self rows, rfl⟩

private theorem rates_gateFailure :
    let row := ReportRow.ofOutcome (gateFailure head required message rows entity) m auditDate
      missingValue missingValue
    (row.successRate, row.failRate) =
      if rows = 0 then ("100.00", "0.00") else ("0.00", "100.00") := by
  intro row
  have hsuccess : row.successRate = rateText (successRate rows rows) := rfl
  have hfail : row.failRate = rateText (100 - successRate rows rows) := rfl
  rw [hsuccess, hfail, successRate_self]
  split
  · rw [rateText_untested.1, rateText_untested.2]
  · rw [rateText_total.1, rateText_total.2]

end Failures

/-- If the first guard of a run is not met, then the report of the run has a single row, in which
everything fails, without date and country. The rates follow the counts: those of a total failure
are there exactly if the table has rows. -/
theorem report_of_unmet {c : Config} {subject : Table} {rule : Rule}
    (hlead : rule.LeadsGuards c.acceptedRules) (hunmet : ¬ rule.MetBy subject)
    (resolve : Resolver) (runTime : Calendar.Moment) (m : Metadata) :
    ∃ a row, Audit.run c subject resolve runTime = .ok a ∧ Report.ofAudit a m = [row] ∧
      row.TotalFailure subject.height ∧
      (row.successRate, row.failRate) =
        if subject.height = 0 then ("100.00", "0.00") else ("0.00", "100.00") := by
  cases hg : c.gateFailure? subject with
  | none => exact (hunmet (Config.gateFailure?_eq_none.1 hg rule hlead)).elim
  | some failure =>
    obtain ⟨a, ha, hs⟩ := Audit.run_of_stopped hg resolve runTime
    obtain ⟨guard, message, -, -, rfl⟩ := Config.gateFailure?_eq_some.1 hg
    have hreport : Report.ofAudit a m = Report.ofFailure (gateFailure guard.head
        (guard.head.target.resolve subject.names) message subject.height
        c.input.metadata.entityCode) m a.runTime := by
      simp only [Report.ofAudit, hs.status, hs.results]
    exact ⟨a, _, ha, hreport, totalFailure_gateFailure .., rates_gateFailure ..⟩

/-- A column is missing from a table with one row. -/
theorem report_of_unmet_missing :
    (Rule.ofGuard "100" "email").LeadsGuards (Config.ofGuards [("100", "email")]).acceptedRules ∧
      ¬ (Rule.ofGuard "100" "email").MetBy (.ofTexts "id" [some "1"]) ∧
      ∃ a row, Audit.run (.ofGuards [("100", "email")]) (.ofTexts "id" [some "1"])
          (fun _ => .ok .empty) ⟨⟨2024, 6, 1⟩, 10, 30, 0⟩ = .ok a ∧
        Report.ofAudit a Config.blank.input.metadata = [row] ∧ row.TotalFailure 1 ∧
        row.successRate = "0.00" ∧ row.failRate = "100.00" := by
  have hlead : (Rule.ofGuard "100" "email").LeadsGuards
      (Config.ofGuards [("100", "email")]).acceptedRules := ⟨rfl, [], [], rfl, by simp⟩
  have hunmet : ¬ (Rule.ofGuard "100" "email").MetBy (.ofTexts "id" [some "1"]) :=
    Rule.not_metBy_ofGuard (by decide)
  obtain ⟨a, row, ha, hreport, hrow, hrates⟩ := report_of_unmet hlead hunmet
    (fun _ => .ok .empty) ⟨⟨2024, 6, 1⟩, 10, 30, 0⟩ Config.blank.input.metadata
  obtain ⟨hsuccess, hfail⟩ := Prod.mk.inj hrates
  exact ⟨hlead, hunmet, a, row, ha, hreport, hrow, hsuccess, hfail⟩

/-- A table without rows does not pass, and yet all of it is reported to succeed. -/
theorem empty_table_reported_flawless :
    ∃ a row, Audit.run (.ofGuards [("100", "id")]) (.ofTexts "id" [])
        (fun _ => .ok .empty) ⟨⟨2024, 6, 1⟩, 10, 30, 0⟩ = .ok a ∧
      a.status = .prerequisitesFailed ∧
      Report.ofAudit a Config.blank.input.metadata = [row] ∧
      row.successRate ≠ "0.00" ∧ row.failRate ≠ "100.00" ∧
      row.successRate = "100.00" ∧ row.failRate = "0.00" := by
  refine ⟨_, _, rfl, rfl, rfl, ?_, ?_, rfl, rfl⟩
  · decide +kernel
  · decide +kernel

end TableAudit
