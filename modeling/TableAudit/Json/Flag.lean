import TableAudit.Json.Number
import TableAudit.Text.Quoted

/-!
# Scalars of several spellings

Configurations are lax about types: a flag may be a word or a number, a text may be a number or a
flag, and a number may be a text.
-/

namespace TableAudit.Json.Value

/-- A truth value, or one of the words and integers that stand for it. -/
def flag? : Value → Option Bool
  | .bool b => some b
  | .text s =>
    match Text.lower (Text.trim s) with
    | "true" | "yes" | "1" => some true
    | "false" | "no" | "0" => some false
    | _ => none
  | .number (.int n) =>
    if -0x8000000000000000 ≤ n && n < 0x8000000000000000 then some (n != 0) else none
  | _ => none

def scalarText? : Value → Option String
  | .text s => some s
  | .number n => some n.text
  | .bool b => some (if b then "true" else "false")
  | _ => none

def float? : Value → Option Float
  | .number n => some n.toFloat
  | .text s => Decimal.readFloat (Text.trim s)
  | _ => none

/-- A float as a value; what is not finite has none. -/
def ofFloat (x : Float) : Value :=
  if Decimal.isFinite x then .number (.float x) else .null

/-- What a value is, in the words of a message about a wrong type. -/
def description : Value → String
  | .null => "null"
  | .bool b => if b then "boolean `true`" else "boolean `false`"
  | .number (.int n) => "integer `" ++ (Number.int n).text ++ "`"
  | .number (.float x) => "floating point `" ++ (Number.float x).text ++ "`"
  | .text s => "string " ++ Text.quoted s
  | .list _ => "sequence"
  | .object _ => "map"

/-- The message about a value of the wrong type. -/
def wrongType (v : Value) (expected : String) : String :=
  "invalid type: " ++ v.description ++ ", expected " ++ expected

mutual

def depth : Value → Nat
  | .list items => depthOfItems items + 1
  | .object entries => depthOfEntries entries + 1
  | _ => 0

def depthOfItems : List Value → Nat
  | [] => 0
  | v :: vs => max v.depth (depthOfItems vs)

def depthOfEntries : List (String × Value) → Nat
  | [] => 0
  | (_, v) :: es => max v.depth (depthOfEntries es)

end

end TableAudit.Json.Value
