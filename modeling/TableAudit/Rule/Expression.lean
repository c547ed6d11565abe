import TableAudit.Decimal.Reading

/-!
# Arithmetic expressions

Operands with operators between them, all separated by blanks. An operand is a number or a column;
operators have no precedence and are applied from left to right.
-/

namespace TableAudit

inductive Operator
  | add
  | sub
  | mul
  | div
deriving DecidableEq, Repr

namespace Operator

def ofToken? : String → Option Operator
  | "+" => some add
  | "-" => some sub
  | "*" => some mul
  | "/" => some div
  | _ => none

def apply (op : Operator) (left right : Float) : Float :=
  match op with
  | add => left + right
  | sub => left - right
  | mul => left * right
  | div => left / right

end Operator

inductive Operand
  | number (x : Float)
  | column (name : String)

def Operand.ofToken (token : String) : Operand :=
  match Decimal.readFloat token with
  | some x => .number x
  | none => .column token

structure Expression where
  first : Operand
  rest : List (Operator × Operand)

namespace Expression

/-- Pairs of an operator and an operand; what is wrong with a list of tokens that are none. -/
def readRest : List String → Except String (List (Operator × Operand))
  | [] => .ok []
  | [token] =>
    match Operator.ofToken? token with
    | some _ => .error "dangling operator"
    | none => .error s!"expected operator, found `{token}`"
  | token :: right :: tokens =>
    match Operator.ofToken? token with
    | some op => (readRest tokens).map ((op, .ofToken right) :: ·)
    | none => .error s!"expected operator, found `{token}`"

def read (raw : String) : Except String Expression :=
  match Text.words raw with
  | [] => .error "empty expression"
  | token :: tokens => (readRest tokens).map (⟨.ofToken token, ·⟩)

/-- The columns of an expression, in the order in which they appear. -/
def columns (e : Expression) : List String :=
  (e.first :: e.rest.map (·.2)).filterMap fun
    | .column name => some name
    | .number _ => none

/-- Continues from a value; a missing operand leaves nothing. -/
def continueFrom (value : Operand → Option Float) (acc : Float) :
    List (Operator × Operand) → Option Float
  | [] => some acc
  | (op, right) :: rest =>
    match value right with
    | some x => continueFrom value (op.apply acc x) rest
    | none => none

/-- The value of an expression, given those of its operands. -/
def eval (value : Operand → Option Float) (e : Expression) : Option Float :=
  (value e.first).bind fun x => continueFrom value x e.rest

end Expression

end TableAudit
