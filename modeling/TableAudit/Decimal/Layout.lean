import TableAudit.Decimal.Shortest

/-!
# Laying out decimal digits

Positional text for reports and data cells, text with an exponent for JSON, and a fixed number of
places for rates.
-/

namespace TableAudit.Decimal

def digitText (n : Nat) : String := String.ofList (Nat.toDigits 10 n)

def zeros (n : Nat) : String := String.ofList (List.replicate n '0')

def sign (negative : Bool) : String := if negative then "-" else ""

/-- Digits with the point in its place and no exponent: `0.001`, `12.5`, `1000`. -/
def Digits.positional (d : Digits) : String :=
  let text := digitText d.coefficient
  if d.exponent ≥ 0 then
    if d.coefficient = 0 then "0" else text ++ zeros d.exponent.toNat
  else
    let places := (-d.exponent).toNat
    let digits := text.toList
    if digits.length > places then
      String.ofList (digits.take (digits.length - places)) ++ "." ++
        String.ofList (digits.drop (digits.length - places))
    else "0." ++ zeros (places - digits.length) ++ text

/-- The shortest text that reads back, never with an exponent. -/
def plain (x : Float) : String :=
  match Magnitude.ofFloat x with
  | .notANumber => "NaN"
  | .infinite negative => sign negative ++ "inf"
  | .finite p => sign p.negative ++ (shortest p).positional

/-- Drops zeros at the end of a decimal fraction, and the point if nothing is left behind it. -/
def trimFraction (text : String) : String :=
  if text.toList.contains '.' then
    let digits := text.toList.reverse.dropWhile (· == '0')
    let kept := match digits with
      | '.' :: rest => rest
      | _ => digits
    String.ofList kept.reverse
  else text

/-- A number as it appears in a data cell. -/
def cellText (x : Float) : String := trimFraction (plain x)

/-- JSON's form of a float: always a point or an exponent. Positional from `1e-5` up to below
`1e16`, the exponent with its sign otherwise. Only finite numbers have one. -/
def Digits.scientific (d : Digits) : String :=
  let text := digitText d.coefficient
  let point : Int := text.length + d.exponent
  if d.coefficient = 0 then "0.0"
  else if -5 < point && point ≤ 16 then
    let p := d.positional
    if d.exponent ≥ 0 then p ++ ".0" else p
  else
    let digits := text.toList
    let mantissa := match digits with
      | [one] => String.ofList [one]
      | one :: rest => String.ofList (one :: '.' :: rest)
      | [] => "0"
    let e := point - 1
    mantissa ++ "e" ++ (if e < 0 then "-" else "+") ++ digitText e.natAbs

/-- A finite float as a JSON number. -/
def jsonText (x : Float) : Option String :=
  match Magnitude.ofFloat x with
  | .finite p => some (sign p.negative ++ (shortest p).scientific)
  | _ => none

/-- Text with `places` decimals of the exact value, a tie to the even digit. -/
def fixed (places : Nat) (x : Float) : String :=
  match Magnitude.ofFloat x with
  | .notANumber => "NaN"
  | .infinite negative => sign negative ++ "inf"
  | .finite p =>
    let (num, den) := p.ratio
    let n := roundDiv (num * tenTo places) den
    let digits := (digitText n).toList
    let padded := List.replicate (places + 1 - digits.length) '0' ++ digits
    let whole := String.ofList (padded.take (padded.length - places))
    let fraction := String.ofList (padded.drop (padded.length - places))
    sign p.negative ++ whole ++ (if places = 0 then "" else "." ++ fraction)

end TableAudit.Decimal
