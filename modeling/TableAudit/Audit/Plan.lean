import TableAudit.Finding

/-!
# Planning

A rule becomes one instance for each of its columns, or a single one for all of them if its kind
looks at columns together.
-/

namespace TableAudit

/-- A rule and the columns that it is evaluated on. -/
structure Instance where
  rule : Rule
  fields : List String

namespace Instance

def head (i : Instance) : RuleHead := i.rule.head

def label (i : Instance) : String := ",".intercalate i.fields

end Instance

/-- Whether a kind looks at all its columns at once. -/
def RuleKind.takesAllFields : RuleKind → Bool
  | .duplicateCheck | .referentialIntegrity | .statisticsSummary => true
  | _ => false

namespace Rule

/-- The kind and the columns by which a rule is planned. A conditional rule is planned like the rule
that it wraps. -/
def planned : Rule → RuleKind × Target
  | .plain h _ => (h.kind, h.target)
  | .conditional h _ _ inner =>
    if h.kind = .conditionalRule then (inner.head.kind, inner.head.target) else (h.kind, h.target)

/-- The instances of a rule over the columns that are there. Prerequisites have none. -/
def instances (r : Rule) (columns : List String) : List Instance :=
  if r.head.kind = .prerequisites then []
  else
    let (kind, target) := r.planned
    let fields := target.resolve columns
    if kind.takesAllFields then [⟨r, fields⟩] else fields.map fun field => ⟨r, [field]⟩

end Rule

/-- The instances of all rules, in the order of the rules. -/
def plan (rules : List Rule) (columns : List String) : List Instance :=
  rules.flatMap (·.instances columns)

end TableAudit
