import Conformance.Number.Shortest

/-! Numbers as text: whole numbers in a base, floating-point numbers in shortest form. -/
namespace Conformance.Number

def digitsText (base n : Nat) : List Char := Nat.toDigits base n

/-- Digits with the point after the first `point` of them, filled with zeros on either side. -/
def positional (digits : List Char) (point : Int) : List Char × List Char :=
  if point ≤ 0 then (['0'], List.replicate (-point).toNat '0' ++ digits)
  else
    let n := point.toNat
    (digits.take n ++ List.replicate (n - digits.length) '0', digits.drop n)

def exponentText (e : Int) : List Char :=
  let digits := digitsText 10 e.natAbs
  (if e < 0 then '-' else '+') :: List.replicate (2 - digits.length) '0' ++ digits

/-- The text of a positive number in shortest form: positional from `0.0001` up to below
`10 ^ 16`, where a whole number keeps `.0`, and with an exponent elsewhere. -/
def shortestText (mantissa : Nat) (exponent : Int) : List Char :=
  let (digits, k) := shortest mantissa exponent
  let ds := digitsText 10 digits
  let point : Int := ds.length + k
  if -4 < point ∧ point ≤ 16 then
    let (whole, fraction) := positional ds point
    whole ++ '.' :: (if fraction.isEmpty then ['0'] else fraction)
  else
    let fraction := ds.drop 1
    ds.take 1 ++ (if fraction.isEmpty then [] else '.' :: fraction) ++ 'e' :: exponentText (point - 1)

def Binary64.text : Binary64 → String
  | nan => "nan"
  | infinite s => if s then "-inf" else "inf"
  | finite s m e =>
    let body := if m = 0 then ['0', '.', '0'] else shortestText m e
    String.ofList (if s then '-' :: body else body)

end Conformance.Number
