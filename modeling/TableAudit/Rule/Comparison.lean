import TableAudit.Text.Pieces

/-!
# Comparing numbers

Comparisons are those of floats: whatever compares with a NaN does not hold, except inequality.
-/

namespace TableAudit

inductive Comparison
  | eq
  | ne
  | gt
  | ge
  | lt
  | le
deriving DecidableEq, Repr

namespace Comparison

def all : List Comparison := [eq, ne, gt, ge, lt, le]

def name : Comparison → String
  | eq => "Eq"
  | ne => "Ne"
  | gt => "Gt"
  | ge => "Ge"
  | lt => "Lt"
  | le => "Le"

def ofName? (name : String) : Option Comparison := all.find? (·.name == name)

@[simp] theorem ofName?_name (op : Comparison) : ofName? op.name = some op := by cases op <;> rfl

def symbol : Comparison → String
  | eq => "=="
  | ne => "!="
  | gt => ">"
  | ge => ">="
  | lt => "<"
  | le => "<="

/-- Reads a symbol; equality and inequality have two each. -/
def ofText? (raw : String) : Option Comparison :=
  match Text.trim raw with
  | "==" | "=" => some eq
  | "!=" | "<>" => some ne
  | ">" => some gt
  | ">=" => some ge
  | "<" => some lt
  | "<=" => some le
  | _ => none

def holds (op : Comparison) (left right : Float) : Bool :=
  match op with
  | eq => left == right
  | ne => left != right
  | gt => left > right
  | ge => left ≥ right
  | lt => left < right
  | le => left ≤ right

end Comparison

end TableAudit
