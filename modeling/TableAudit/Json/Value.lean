/-!
# JSON values

Objects keep the order of their keys. A number is an integer of at most 64 bits or a float; the
two stay apart, since `1` and `1.0` are written differently.
-/

namespace TableAudit.Json

inductive Number
  | int (n : Int)
  | float (x : Float)

inductive Value
  | null
  | bool (b : Bool)
  | number (n : Number)
  | text (s : String)
  | list (items : List Value)
  | object (entries : List (String × Value))

instance : Inhabited Value := ⟨.null⟩

namespace Value

/-- Sets a key of an object's entries: a known key keeps its place and takes the new value. -/
def set (entries : List (String × Value)) (key : String) (v : Value) : List (String × Value) :=
  if entries.any (·.1 == key) then
    entries.map fun e => if e.1 == key then (key, v) else e
  else entries ++ [(key, v)]

/-- The value at a key; nothing if this is no object or has no such key. -/
def get? (v : Value) (key : String) : Option Value :=
  match v with
  | .object entries => (entries.find? (·.1 == key)).map (·.2)
  | _ => none

def isNull : Value → Bool
  | .null => true
  | _ => false

def text? : Value → Option String
  | .text s => some s
  | _ => none

def ofNat (n : Nat) : Value := .number (.int n)

def ofInt (n : Int) : Value := .number (.int n)

/-- A value that may be absent, as itself or as `null`. -/
def ofOption {α : Type} (f : α → Value) : Option α → Value
  | some a => f a
  | none => .null

def texts (items : List String) : Value := .list (items.map .text)

end Value

end TableAudit.Json
