/-!
# The float nearest to a rational number

A finite float is `m * 2 ^ q` with `m < 2 ^ 53` and `-1074 ≤ q`. `ofRatio` rounds a quotient of
natural numbers to the nearest such number, a tie to even, in exact integer arithmetic; `ofScaled`
does so for a decimal `m * 10 ^ e`.
-/

namespace TableAudit.Decimal

def tenTo (n : Nat) : Nat := Nat.pow 10 n

def infinityBits : Nat := 0x7ff <<< 52

/-- A float from its sign and the bits of its magnitude; what is past the largest finite number is
infinite. -/
def signed (negative : Bool) (bits : Nat) : Float :=
  Float.ofBits (UInt64.ofNat (min bits infinityBits + if negative then 1 <<< 63 else 0))

/-- A quotient rounded to the nearest integer, a tie to the even one. -/
def roundDiv (num den : Nat) : Nat :=
  let q := num / den
  let r := num % den
  if 2 * r > den || (2 * r == den && q % 2 == 1) then q + 1 else q

/-- The binary exponent of a positive quotient: the greatest `e` with `2 ^ e ≤ num / den`. -/
def binaryExponent (num den : Nat) : Int :=
  let k := (num.log2 : Int) - den.log2
  let below := if k ≥ 0 then num < den <<< k.toNat else num <<< (-k).toNat < den
  if below then k - 1 else k

/-- Bits of the float nearest to `num / den`. The significand is taken at the scale of the last
binary place; a carry out of it moves on to the next exponent by itself. -/
def magnitudeBits (num den : Nat) : Nat :=
  if num = 0 then 0
  else
    let q := max (binaryExponent num den - 52) (-1074)
    let m := if q ≥ 0 then roundDiv num (den <<< q.toNat) else roundDiv (num <<< (-q).toNat) den
    (q + 1074).toNat <<< 52 + m

/-- The float nearest to a quotient. -/
def ofRatio (negative : Bool) (num den : Nat) : Float :=
  signed negative (magnitudeBits num den)

def digitCount (n : Nat) : Nat := (Nat.toDigits 10 n).length

/-- The float nearest to `m * 10 ^ e`. Exponents beyond the range of floats are decided without
raising ten to them. -/
def ofScaled (negative : Bool) (m : Nat) (e : Int) : Float :=
  let top := (digitCount m : Int) + e
  if m = 0 || top < -400 then signed negative 0
  else if top > 400 then signed negative infinityBits
  else if e ≥ 0 then ofRatio negative (m * tenTo e.toNat) 1
  else ofRatio negative m (tenTo (-e).toNat)

def ofInt (n : Int) : Float := ofRatio (n < 0) n.natAbs 1

/-- Sign, significand and binary exponent of a finite float. -/
structure Parts where
  negative : Bool
  significand : Nat
  exponent : Int

/-- What the bits of a float say about its magnitude. -/
inductive Magnitude
  | finite (parts : Parts)
  | infinite (negative : Bool)
  | notANumber

def Magnitude.ofFloat (x : Float) : Magnitude :=
  let bits := x.toBits.toNat
  let negative := bits ≥ 1 <<< 63
  let exponent : Nat := bits >>> 52 % 2048
  let fraction : Nat := bits % (1 <<< 52)
  if exponent = 0x7ff then
    if fraction = 0 then .infinite negative else .notANumber
  else if exponent = 0 then .finite ⟨negative, fraction, -1074⟩
  else .finite ⟨negative, fraction + 1 <<< 52, (exponent : Int) - 1075⟩

/-- Numerator and denominator of a magnitude `significand * 2 ^ exponent`. -/
def Parts.ratio (p : Parts) : Nat × Nat :=
  if p.exponent ≥ 0 then (p.significand <<< p.exponent.toNat, 1)
  else (p.significand, 1 <<< (-p.exponent).toNat)

def isFinite (x : Float) : Bool :=
  match Magnitude.ofFloat x with
  | .finite _ => true
  | _ => false

def isIntegral (x : Float) : Bool :=
  match Magnitude.ofFloat x with
  | .finite p =>
    let (num, den) := p.ratio
    num % den == 0
  | _ => false

def maxWord : Nat := 0xffffffffffffffff

/-- The 64-bit word that a float comes to once its magnitude is rounded. What is below the range or
no number counts as zero, what is above it as the greatest word. -/
def toWord (round : Nat → Nat → Nat) (x : Float) : Nat :=
  match Magnitude.ofFloat x with
  | .finite p => if p.negative then 0 else min (round p.ratio.1 p.ratio.2) maxWord
  | .infinite negative => if negative then 0 else maxWord
  | .notANumber => 0

/-- A float rounded down to a word. -/
def wordBelow (x : Float) : Nat := toWord (fun num den => num / den) x

/-- A float rounded up to a word. -/
def wordAbove (x : Float) : Nat := toWord (fun num den => (num + (den - 1)) / den) x

def isNaN (x : Float) : Bool :=
  match Magnitude.ofFloat x with
  | .notANumber => true
  | _ => false

end TableAudit.Decimal
