import TableAudit.Finding

/-!
# Prerequisites

Before any other rule, the required columns have to be there and the table must not be empty.
Otherwise one outcome, in which every row fails, is all that is reported.
-/

namespace TableAudit

inductive Gate
  | satisfied
  | missingColumns (names : List String)
  | noRows
deriving DecidableEq, Repr

namespace Gate

/-- Missing columns come before a lack of rows. -/
def check (t : Table) (required : List String) : Gate :=
  match required.filter fun name => !t.fields.has name with
  | [] => if t.height = 0 then .noRows else .satisfied
  | missing => .missingColumns missing

/-- What is reported; nothing if the gate is satisfied. -/
def message? : Gate → Option String
  | satisfied => none
  | missingColumns names =>
    some ("Error en esquema de la tabla, revisar los siguientes campos: " ++
      ",".intercalate names)
  | noRows => some "DataFrame no contiene registros"

end Gate

/-- The outcome of a rule whose prerequisites are not met. -/
def gateFailure (head : RuleHead) (required : List String) (message : String) (rows : Nat)
    (entity : String) : Outcome :=
  let kind := RuleKind.prerequisites
  let label := ",".intercalate required
  { code := head.code
    kind
    label
    functionCode := kind.code
    ruleCode := s!"{kind.code}/{entity}/{label}"
    requirement := message
    threshold := 100
    group := kind.group
    property := kind.property
    tested := rows
    failed := rows
    writes := false
    violating := none }

end TableAudit
