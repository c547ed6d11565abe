import TableAudit.Console.Grid
import TableAudit.Pipeline

/-!
# What is shown of an audit

A grid with a line for every outcome and a total, the profiles and the tables that were written; and
the grid of the kinds of rules.
-/

namespace TableAudit

open Console (Grid Style)

namespace RuleKind

def grid : Grid where
  alignments := [.center, .left, .left, .left]
  header := ["Code", "Rule", "Group", "Property"]
  rows := all.map fun k => [k.code, k.label, k.group, k.property]
  style := ⟨"┆", false, false⟩
  width := 120

end RuleKind

def Outcome.summaryRow (o : Outcome) : List String :=
  [o.code, o.kind.label, o.label, Decimal.digitText o.tested, Decimal.digitText o.failed,
   rateText o.successRate, rateText o.threshold]

namespace AuditResult

def totalRow (outcomes : List Outcome) : List String :=
  let tested := outcomes.foldl (fun n o => n + o.tested) 0
  let failed := outcomes.foldl (fun n o => n + o.failed) 0
  ["TOTAL", Decimal.digitText outcomes.length ++ " results", "-", Decimal.digitText tested,
   Decimal.digitText failed, rateText (successRate tested failed), "-"]

def grid (r : AuditResult) : Grid where
  alignments := [.left, .left, .left, .right, .right, .right, .right]
  header := ["Code", "Rule", "Fields", "Tested", "Failed", "Success %", "Threshold"]
  rows := r.audit.results.map Outcome.summaryRow ++ [totalRow r.audit.results]
  style := ⟨"│", true, true⟩
  width := 140

/-- The lines of the summary. -/
def summary (r : AuditResult) : List String :=
  let a := r.audit
  ["Run time: " ++ a.runTime.text, "Rows tested: " ++ Decimal.digitText a.testedRows] ++
  (if a.status = .prerequisitesFailed then ["Prerequisites: FAILED"] else []) ++
  r.grid.lines ++
  (a.profilings.map fun p =>
    s!"Statistics {p.code}: {Decimal.digitText p.table.height} fields profiled") ++
  r.written.map fun w => s!"Wrote {w.table} ({Decimal.digitText w.rows} rows): {w.path}"

def skipped (r : AuditResult) : List String :=
  match r.audit.diagnostics with
  | [] => []
  | ds => "Skipped:" :: ds.map fun d => "- " ++ d.text

end AuditResult

end TableAudit
