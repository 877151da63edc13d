import Conformance.Number.Binary64
import Conformance.Text.Class
import Conformance.Text.Split

/-! Reading numbers from free text: blanks around them are allowed, and digits of any script. -/
namespace Conformance.Number

def digitIn? (base : Nat) (c : Char) : Option Nat :=
  let value :=
    if 'a' ≤ c ∧ c ≤ 'f' then some (c.toNat - 'a'.toNat + 10)
    else if 'A' ≤ c ∧ c ≤ 'F' then some (c.toNat - 'A'.toNat + 10)
    else Text.digitValue? c
  value.filter (· < base)

def baseLetters : Nat → List Char
  | 2 => ['b', 'B']
  | 8 => ['o', 'O']
  | 16 => ['x', 'X']
  | _ => []

/-- The number that the digits of a base stand for, where single underscores may part them. -/
def natOfDigits? (base : Nat) (s : List Char) : Option Nat :=
  let groups := Text.splitAtEach '_' s
  if groups.any List.isEmpty then none
  else groups.flatten.foldlM (fun n c => (digitIn? base c).map (base * n + ·)) 0

def splitSign : List Char → Bool × List Char
  | '-' :: rest => (true, rest)
  | '+' :: rest => (false, rest)
  | s => (false, s)

/-- The whole number that a text spells in a base, which its digits may announce. -/
def intOfText? (base : Nat) (s : List Char) : Option Int := do
  let (negative, s) := splitSign (Text.strip s)
  let s := match s with
    | '0' :: c :: rest => if (baseLetters base).contains c then rest else s
    | s => s
  let n : Int := (← natOfDigits? base s : Nat)
  return if negative then -n else n

def decimalDigits (s : List Char) : Nat :=
  s.foldl (fun n c => 10 * n + (Text.digitValue? c).getD 0) 0

def exponentOf? : List Char → Option Int
  | [] => some 0
  | e :: rest =>
    if e == 'e' || e == 'E' then do
      let (negative, digits) := splitSign rest
      let n : Int := (← natOfDigits? 10 digits : Nat)
      return if negative then -n else n
    else none

def floatOfText? (s : List Char) : Option Binary64 :=
  let (negative, s) := splitSign (Text.strip s)
  let isDigit (c : Char) : Bool := (Text.digitValue? c).isSome
  if [['i', 'n', 'f'], ['i', 'n', 'f', 'i', 'n', 'i', 't', 'y']].contains s then
    some (.infinite negative)
  else if s == ['n', 'a', 'n'] then some .nan
  else
    let whole := s.takeWhile isDigit
    let (fraction, rest) := match s.dropWhile isDigit with
      | '.' :: rest => (rest.takeWhile isDigit, rest.dropWhile isDigit)
      | rest => ([], rest)
    if whole.isEmpty && fraction.isEmpty then none
    else do
      let e ← exponentOf? rest
      return .ofDecimal negative (decimalDigits (whole ++ fraction)) (e - fraction.length)

end Conformance.Number
