import TableAudit.Decimal.Nearest
import TableAudit.Text.Pieces

/-!
# Reading numbers from text

The grammar of a float is an optional sign, then `inf`, `infinity` or `nan` in any letter case, or
digits with an optional point and an optional exponent. Integers are a sign and digits within a
range.
-/

namespace TableAudit.Decimal

def digitsValue (cs : List Char) : Nat :=
  cs.foldl (fun n c => 10 * n + (c.toNat - '0'.toNat)) 0

/-- Splits off a sign; the flag says whether it was a minus. -/
def takeSign : List Char → Bool × List Char
  | '-' :: cs => (true, cs)
  | '+' :: cs => (false, cs)
  | cs => (false, cs)

def takeDigits (cs : List Char) : List Char × List Char :=
  (cs.takeWhile Char.isDigit, cs.dropWhile Char.isDigit)

/-- An exponent part: nothing, or `e` with an optional sign and at least one digit. -/
def readExponent : List Char → Option Int
  | [] => some 0
  | c :: cs =>
    if c == 'e' || c == 'E' then
      let (negative, ds) := takeSign cs
      if ds.isEmpty || !ds.all Char.isDigit then none
      else
        let n : Int := digitsValue ds
        some (if negative then -n else n)
    else none

/-- A decimal number without sign: coefficient and exponent of ten. -/
def readUnsigned (cs : List Char) : Option (Nat × Int) :=
  let (whole, rest) := takeDigits cs
  let (fraction, rest) := match rest with
    | '.' :: rest => takeDigits rest
    | _ => ([], rest)
  if whole.isEmpty && fraction.isEmpty then none
  else
    (readExponent rest).map fun e => (digitsValue (whole ++ fraction), e - fraction.length)

/-- Names of the numbers that have no digits. -/
def readNamed (negative : Bool) (cs : List Char) : Option Float :=
  let name := String.ofList (cs.map Char.toLower)
  if name == "inf" || name == "infinity" then some (signed negative infinityBits)
  else if name == "nan" then some (Float.ofBits 0x7ff8000000000000)
  else none

def readFloat (s : String) : Option Float :=
  let (negative, cs) := takeSign s.toList
  match readNamed negative cs with
  | some x => some x
  | none => (readUnsigned cs).map fun (m, e) => ofScaled negative m e

/-- A finite float with blanks allowed around it: the number a data cell stands for. -/
def cellNumber (s : String) : Option Float :=
  (readFloat (Text.trim s)).filter isFinite

def readInt (low high : Int) (s : String) : Option Int :=
  let (negative, ds) := takeSign s.toList
  if ds.isEmpty || !ds.all Char.isDigit then none
  else
    let n : Int := digitsValue ds
    let n := if negative then -n else n
    if low ≤ n && n ≤ high then some n else none

end TableAudit.Decimal
