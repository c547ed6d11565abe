import TableAudit.Decimal.Layout
import TableAudit.Decimal.Reading
import TableAudit.Json.Value

/-!
# Numbers in JSON text

An integer that fits 64 bits stays one. Any other number becomes a float: the first digits that fit
64 bits, converted and then scaled once by a power of ten. The result may differ from the nearest
float in its last bit; a number past the largest float is refused.
-/

namespace TableAudit.Json

open Decimal

/-- Largest integer that a significand can hold. -/
def significandLimit : Nat := 0xffffffffffffffff

/-- How a number is cut into its parts: digits before and behind the point, and the exponent. -/
structure Numeral where
  negative : Bool
  whole : List Char
  fraction : List Char
  exponent : Option (Bool × List Char)

/-- Takes digits into a significand as long as it holds them; what is left over is returned. -/
def accumulate (m : Nat) : List Char → Nat × List Char
  | [] => (m, [])
  | c :: cs =>
    let m' := 10 * m + (c.toNat - '0'.toNat)
    if m' ≤ significandLimit then accumulate m' cs else (m, c :: cs)

def powerOfTen (n : Nat) : Float := ofScaled false 1 n

/-- Scales a float by ten to an exponent. Powers below the table are reached in steps of 308. -/
def scaleFloat : Nat → Float → Int → Option Float
  | 0, f, _ => some f
  | fuel + 1, f, e =>
    if e.natAbs ≤ 308 then
      if e ≥ 0 then
        let scaled := f * powerOfTen e.natAbs
        if isFinite scaled then some scaled else none
      else some (f / powerOfTen e.natAbs)
    else if f == 0 then some f
    else if e ≥ 0 then none
    else scaleFloat fuel (f / powerOfTen 308) (e + 308)

/-- Integers whose exponents are read as 32-bit numbers saturate at these bounds. -/
def clampExponent (e : Int) : Int := max (-0x80000000) (min e 0x7fffffff)

/-- The float of a significand and an exponent. The scaling stops once the float is zero, so few
steps are ever needed. -/
def floatOfParts (negative : Bool) (m : Nat) (e : Int) : Option Float :=
  (scaleFloat 8 (ofInt m) e).map fun f => if negative then -f else f

/-- The number that a numeral stands for; `none` if it is out of range. -/
def Numeral.value? (s : Numeral) : Option Number :=
  let (m, dropped) := accumulate 0 s.whole
  if s.fraction.isEmpty && s.exponent.isNone && dropped.isEmpty then
    if !s.negative then some (.int m)
    else if m = 0 || m > 0x8000000000000000 then (some (.float (-(ofInt m))))
    else some (.int (-m))
  else
    let (m, unused) := accumulate m s.fraction
    let scale : Int := (dropped.length : Int) - (s.fraction.length - unused.length : Nat)
    match s.exponent with
    | none => (floatOfParts s.negative m scale).map .float
    | some (down, ds) =>
      let n := digitsValue ds
      if n > 0x7fffffff then
        if m ≠ 0 && !down then none
        else some (.float (if s.negative then -0.0 else 0.0))
      else
        let e := clampExponent (if down then scale - n else scale + n)
        (floatOfParts s.negative m e).map .float

/-- The text of a number. A float always shows a point or an exponent. -/
def Number.text : Number → String
  | .int n => if n < 0 then "-" ++ digitText n.natAbs else digitText n.natAbs
  | .float x => (jsonText x).getD "null"

def Number.toFloat : Number → Float
  | .int n => ofInt n
  | .float x => x

end TableAudit.Json
