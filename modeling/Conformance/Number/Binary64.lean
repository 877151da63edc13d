import Conformance.Number.Rounding

/-! Binary floating-point numbers of double width, held exactly. Every operation computes the
exact result as a fraction and rounds once. -/
namespace Conformance.Number

/-- A finite number is `± mantissa · 2 ^ exponent`. -/
inductive Binary64
  | nan
  | infinite (negative : Bool)
  | finite (negative : Bool) (mantissa : Nat) (exponent : Int)
  deriving DecidableEq, Repr

namespace Binary64

def leastFull : Nat := 0x10000000000000

def zero (negative : Bool) : Binary64 := finite negative 0 (-1074)

/-- The number nearest to `± num / den`, ties to the even mantissa. -/
def ofRatio (negative : Bool) (num den : Nat) : Binary64 :=
  if num = 0 then zero negative
  else
    let e := max (log2Ratio num den - 52) (-1074)
    let (n, d) := scale 2 num den (-e)
    let m := roundDiv n d
    let (m, e) := if m = 2 * leastFull then (leastFull, e + 1) else (m, e)
    if 971 < e then infinite negative else finite negative m e

def ofDecimal (negative : Bool) (digits : Nat) (exponent : Int) : Binary64 :=
  if digits = 0 then zero negative
  else
    let magnitude : Int := (digits.log2 : Int) * 3 / 10 + exponent
    if 400 < magnitude then infinite negative
    else if magnitude < -400 - (digits.log2 : Int) then zero negative
    else
      let (num, den) := scale 10 digits 1 exponent
      ofRatio negative num den

def ofInt (n : Int) : Binary64 := ofRatio (n < 0) n.natAbs 1

def ratio (mantissa : Nat) (exponent : Int) : Nat × Nat := scale 2 mantissa 1 exponent

def toInt? : Binary64 → Option Int
  | finite negative m e =>
    let (num, den) := ratio m e
    if num % den = 0 then
      let n : Int := (num / den : Nat)
      some (if negative then -n else n)
    else none
  | _ => none

def isZero : Binary64 → Bool
  | finite _ 0 _ => true
  | _ => false

def isNegative : Binary64 → Bool
  | nan => false
  | infinite negative => negative
  | finite negative _ _ => negative

def neg : Binary64 → Binary64
  | nan => nan
  | infinite s => infinite (!s)
  | finite s m e => finite (!s) m e

/-- Numeric equality, under which the two zeros agree and nothing equals `nan`. -/
def same : Binary64 → Binary64 → Bool
  | finite s m e, finite s' m' e' => (m == 0 && m' == 0) || (s == s' && m == m' && e == e')
  | infinite s, infinite s' => s == s'
  | _, _ => false

def mul : Binary64 → Binary64 → Binary64
  | finite s m e, finite s' m' e' =>
    let (num, den) := ratio (m * m') (e + e')
    ofRatio (s != s') num den
  | nan, _ => nan
  | _, nan => nan
  | infinite s, b => if b.isZero then nan else infinite (s != b.isNegative)
  | a, infinite s => if a.isZero then nan else infinite (a.isNegative != s)

def add : Binary64 → Binary64 → Binary64
  | finite s m e, finite s' m' e' =>
    let low := min e e'
    let signed (s : Bool) (m : Nat) (e : Int) : Int :=
      let n : Int := m * Nat.pow 2 (e - low).toNat
      if s then -n else n
    let sum := signed s m e + signed s' m' e'
    let (num, den) := ratio sum.natAbs low
    ofRatio (if sum = 0 then s && s' else sum < 0) num den
  | nan, _ => nan
  | _, nan => nan
  | infinite s, infinite s' => if s == s' then infinite s else nan
  | infinite s, _ => infinite s
  | _, infinite s => infinite s

def divNat (x : Binary64) (n : Nat) : Binary64 :=
  match x with
  | finite s m e =>
    let (num, den) := ratio m e
    ofRatio s num (den * n)
  | other => other

end Binary64

end Conformance.Number
