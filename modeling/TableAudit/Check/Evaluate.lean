import TableAudit.Check.Dates
import TableAudit.Check.Groups
import TableAudit.Check.Listed
import TableAudit.Check.Texts
import TableAudit.Filtering

/-!
# Evaluating rules

A check on a list of columns of a table. Most checks use the first column of the list only. A
conditional rule judges the rows that pass its filters as a table of their own and puts the verdicts
back where they belong.
-/

namespace TableAudit

def firstField (fields : List String) : String := fields.headD ""

def Check.evaluate (c : Check) (kind : RuleKind) (fields : List String) (t : Table)
    (ctx : Context) : Except CheckError Finding :=
  let s := t.fields
  let field := firstField fields
  let judged (p : Prepared) : Except CheckError Finding := p.bind (·.judge t.rows)
  match c with
  | .fields =>
    if kind = .duplicateCheck then GroupCheck.unique t fields else judged (RowCheck.present s field)
  -- profiling fails no row
  | .statistics _ => judged (.ok (.ofEvery fun _ => false))
  | .referential reference referenceFields => do
    let other ← ctx.reference reference
    judged (RowCheck.referential s fields other referenceFields)
  | .catalog allowed => judged (RowCheck.catalog s field allowed)
  | .range bounds => judged (RowCheck.range s field bounds)
  | .forbidden tokens => judged (RowCheck.withoutTokens s field tokens)
  | .type expected => judged (RowCheck.typed s field expected)
  | .composition parts delimiter => judged (RowCheck.composedOf s field parts delimiter)
  | .length min max => judged (RowCheck.lengthWithin s field min max)
  | .storageType expected => judged (RowCheck.storageType s field expected)
  | .numericFormat integerDigits decimalDigits separator =>
    judged (RowCheck.numericFormat s field integerDigits decimalDigits separator)
  | .numericOperation operator operand tolerance =>
    judged (RowCheck.operation s field operator operand tolerance)
  | .dateFormat format => judged (RowCheck.dateFormat s field format)
  | .timeRange reference format unit bounds =>
    judged (RowCheck.timeRange s field reference format unit bounds ctx.runDate)
  | .positionValue first last expected => judged (RowCheck.atPosition s field first last expected)
  | .email reference domainField tokens => do
    let other ← ctx.reference reference
    judged (RowCheck.email s field other domainField tokens)
  | .valueTrend referenceFields method => GroupCheck.trend t field referenceFields method

/-- Verdicts on the marked positions, put back among the unmarked ones, which pass. -/
def spread : List Bool → List Bool → List Bool
  | [], _ => []
  | false :: marks, verdicts => false :: spread marks verdicts
  | true :: marks, [] => false :: spread marks []
  | true :: marks, v :: verdicts => v :: spread marks verdicts

def Rule.evaluate (fields : List String) (ctx : Context) :
    Rule → Table → Except CheckError Finding
  | .plain h c, t => c.evaluate h.kind fields t ctx
  | .conditional _ condition filters inner, t => do
    let marks ← (t.filterMask condition filters).mapError .table
    let finding ← inner.evaluate fields ctx (t.select marks)
    return ⟨finding.tested, spread marks finding.failed⟩

end TableAudit
