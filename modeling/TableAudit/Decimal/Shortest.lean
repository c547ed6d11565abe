import TableAudit.Decimal.Nearest

/-!
# The fewest digits that read back

Of all decimals that round to a float, the shortest; of the shortest, the nearest to the float.
Only the two neighbours of the float on each decimal grid have to be tried: if any point of a grid
reads back, one of them does.
-/

namespace TableAudit.Decimal

/-- A decimal `coefficient * 10 ^ exponent`. -/
structure Digits where
  coefficient : Nat
  exponent : Int
deriving DecidableEq, Repr

/-- The decimal exponent of a positive quotient: the greatest `k` with `10 ^ k ≤ num / den`. -/
def decimalExponent (num den : Nat) : Int :=
  let k := (digitCount num : Int) - digitCount den
  let below := if k ≥ 0 then num < den * tenTo k.toNat else num * tenTo (-k).toNat < den
  if below then k - 1 else k

/-- The neighbours of a quotient on the grid of multiples of `10 ^ e`, the nearer one first; of two
equally near ones the even one. -/
def neighbours (num den : Nat) (e : Int) : List Digits :=
  let n := if e ≥ 0 then num else num * tenTo (-e).toNat
  let d := if e ≥ 0 then den * tenTo e.toNat else den
  let near := roundDiv n d
  let low := n / d
  if near = low then [⟨low, e⟩, ⟨low + 1, e⟩] else [⟨low + 1, e⟩, ⟨low, e⟩]

/-- Whether a decimal rounds to the float with these magnitude bits. -/
def Digits.readsAs (d : Digits) (bits : UInt64) : Bool :=
  (ofScaled false d.coefficient d.exponent).toBits == bits

/-- The first decimal on grids of 1, 2, … digits that reads back. -/
def searchGrids (num den : Nat) (bits : UInt64) (top : Int) : List Nat → Option Digits
  | [] => none
  | n :: rest =>
    match (neighbours num den (top - n)).find? (·.readsAs bits) with
    | some d => some d
    | none => searchGrids num den bits top rest

/-- The exact decimal expansion of a dyadic fraction. -/
def exactDigits (p : Parts) : Digits :=
  if p.exponent ≥ 0 then ⟨p.significand <<< p.exponent.toNat, 0⟩
  else ⟨p.significand * Nat.pow 5 (-p.exponent).toNat, p.exponent⟩

/-- Drops zeros at the end of the coefficient. -/
def Digits.reduce (d : Digits) : Nat → Digits
  | 0 => d
  | fuel + 1 =>
    if d.coefficient ≠ 0 ∧ d.coefficient % 10 = 0 then
      Digits.reduce ⟨d.coefficient / 10, d.exponent + 1⟩ fuel
    else d

/-- Shortest digits of a finite magnitude. Seventeen digits always suffice. -/
def shortest (p : Parts) : Digits :=
  if p.significand = 0 then ⟨0, 0⟩
  else
    let (num, den) := p.ratio
    let bits := (ofRatio false num den).toBits
    let found := searchGrids num den bits (decimalExponent num den) (List.range 17)
    (found.getD (exactDigits p)).reduce 800

end TableAudit.Decimal
