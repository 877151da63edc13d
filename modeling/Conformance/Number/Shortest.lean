import Conformance.Number.Binary64

/-! The shortest decimal that reads back as a given binary number, and decimals of a given
number of places or digits. Digits and exponent `(d, k)` stand for `d · 10 ^ k`. -/
namespace Conformance.Number

/-- The exponent `k` with `10 ^ k ≤ num / den < 10 ^ (k + 1)`, for positive arguments: the binary
exponent gives a first guess that is off by at most one. -/
def log10Ratio (num den : Nat) : Int :=
  let guess := Int.fdiv (log2Ratio num den * 30103) 100000
  let reaches (k : Int) : Bool := let (n, d) := scale 10 num den (-k); d ≤ n
  if reaches (guess + 1) then guess + 1 else if reaches guess then guess else guess - 1

def dropZeros (digits : Nat) (exponent : Int) : Nat → Nat × Int
  | 0 => (digits, exponent)
  | fuel + 1 =>
    if digits % 10 = 0 ∧ digits ≠ 0 then dropZeros (digits / 10) (exponent + 1) fuel
    else (digits, exponent)

/-- Whether a decimal lies in the interval of reals that round to `mantissa · 2 ^ exponent`. -/
def readsBack (mantissa : Nat) (exponent : Int) (digits : Nat) (k : Int) : Bool :=
  let (n, d) := scale 10 digits 1 k
  -- Both sides in quarters of the unit `2 ^ exponent`.
  let (n, d) := scale 2 n d (2 - exponent)
  let below := if mantissa = Binary64.leastFull ∧ -1074 < exponent then 1 else 2
  let low := (4 * mantissa - below) * d
  let high := (4 * mantissa + 2) * d
  if mantissa % 2 = 0 then low ≤ n && n ≤ high else low < n && n < high

/-- The grid of `places` digits: of the two neighbours of the number, those that read back, the
nearer one first. -/
def gridHit? (mantissa : Nat) (exponent : Int) (places : Nat) : Option (Nat × Int) :=
  let (num, den) := Binary64.ratio mantissa exponent
  let k := log10Ratio num den - (places - 1)
  let (n, d) := scale 10 num den (-k)
  let low := n / d
  let near := roundDiv n d
  let far := if near = low then low + 1 else low
  [near, far].find? (readsBack mantissa exponent · k) |>.map (·, k)

/-- The digits of a positive finite number that are fewest and, of those, nearest to it. -/
def shortest (mantissa : Nat) (exponent : Int) : Nat × Int :=
  match (List.range 17).findSome? fun i => gridHit? mantissa exponent (i + 1) with
  | some (digits, k) => dropZeros digits k 18
  | none => (mantissa, 0)

def fixedDigits (num den places : Nat) : Nat := roundDiv (num * Nat.pow 10 places) den

def significant (num den count : Nat) : Nat × Int :=
  let k := log10Ratio num den - (count - 1)
  let (n, d) := scale 10 num den (-k)
  let digits := roundDiv n d
  if digits = Nat.pow 10 count then (Nat.pow 10 (count - 1), k + 1) else (digits, k)

end Conformance.Number
