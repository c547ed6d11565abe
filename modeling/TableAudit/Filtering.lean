import TableAudit.Check.Basic

/-!
# Filtering rows

A missing cell passes no filter but the one that asks for it. Values are compared as texts, or as
numbers if both are.
-/

namespace TableAudit

/-- Whether a text equals one of several values. -/
def equalsAny (text : String) (values : List String) : Bool :=
  let number := Decimal.cellNumber text
  values.any fun value =>
    value == text || number.any fun x => (Decimal.cellNumber value).any fun y => x == y

/-- Whether a row passes a test of the cell at a position. -/
def FilterTest.accepts (test : FilterTest) (i : Nat) (row : Row) : Bool :=
  match test with
  | .isIn values => (row.text? i).any (equalsAny · values)
  | .notIn values => (row.text? i).any fun text => !equalsAny text values
  | .isNull => (row.text? i).isNone
  | .isNotNull => (row.text? i).isSome
  | .compare op literal => (row.number? i).any (op.holds · literal)

namespace RowFilter

def prepare (f : RowFilter) (s : Schema) : Except TableError (Row → Bool) :=
  (s.column f.column).map f.test.accepts

/-- The filters that a condition takes into account. -/
def considered (condition : Condition) (filters : List RowFilter) : List RowFilter :=
  match condition with
  | .first => filters.take 1
  | .all | .any => filters

/-- Whether a row passes filters together; without filters every row does. -/
def prepareAll (condition : Condition) (filters : List RowFilter) (s : Schema) :
    Except TableError (Row → Bool) := do
  let tests ← (considered condition filters).mapM (·.prepare s)
  return fun row =>
    match condition with
    | .any => tests.isEmpty || tests.any (· row)
    | .first | .all => tests.all (· row)

end RowFilter

namespace Table

def filterMask (t : Table) (condition : Condition) (filters : List RowFilter) :
    Except TableError (List Bool) :=
  (RowFilter.prepareAll condition filters t.fields).map t.rows.map

def filterBy (t : Table) (condition : Condition) (filters : List RowFilter) :
    Except TableError Table :=
  (RowFilter.prepareAll condition filters t.fields).map t.filter

end Table

end TableAudit
