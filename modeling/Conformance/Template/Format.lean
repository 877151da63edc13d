import Conformance.Datum.Basic
import Conformance.Template.Layout

/-! Values in the layout of a format specification. -/
namespace Conformance.Template

open Number

def formatText (s : String) (spec : List Char) : Except Fault (List Char) := do
  if spec.isEmpty then return s.toList
  let l ← Layout.read "str" '<' (some 's') spec
  match l.code with
  | some 's' =>
    match l.sign with
    | some ' ' => throw (.format .spaceOnText)
    | some _ => throw (.format .signOnText)
    | none => pure ()
    if l.noNegativeZero then throw (.format .signlessZeroOnText)
    if l.alternate then throw (.format .alternateOnText)
    if l.align == '=' then throw (.format .numericAlignmentOnText)
    return pad l [] (s.toList.take (l.precision.getD s.length))
  | code => throw (.format (.unknownCode (code.getD ' ') "str"))

structure Decimal where
  whole : List Char
  tail : List Char

/-- A whole part with a fraction, whose point may be kept without digits after it. -/
def Decimal.ofParts (keepPoint : Bool) (whole fraction : List Char) : Decimal :=
  ⟨whole, if fraction.isEmpty then (if keepPoint then ['.'] else []) else '.' :: fraction⟩

def fixedPoint (keepPoint : Bool) (digits places : Nat) : Decimal :=
  let ds := Nat.toDigits 10 digits
  let ds := List.replicate (places + 1 - ds.length) '0' ++ ds
  .ofParts keepPoint (ds.take (ds.length - places)) (ds.drop (ds.length - places))

def scientific (keepPoint : Bool) (digits : List Char) (exponent : Int) : Decimal :=
  let d := Decimal.ofParts keepPoint (digits.take 1) (digits.drop 1)
  { d with tail := d.tail ++ 'e' :: exponentText exponent }

/-- `count` significant digits of a finite number, and the exponent of the first of them. -/
def leadingDigits (mantissa : Nat) (exponent : Int) (count : Nat) : List Char × Int :=
  if mantissa = 0 then (List.replicate count '0', 0)
  else
    let (num, den) := Binary64.ratio mantissa exponent
    let (digits, k) := significant num den count
    (Nat.toDigits 10 digits, k + (count - 1))

def generalPoint (keepPoint pointed : Bool) (digits : List Char) (first : Int) : Decimal :=
  let (whole, fraction) := positional digits (first + 1)
  .ofParts keepPoint whole (if fraction.isEmpty && pointed then ['0'] else fraction)

def general (keepPoint pointed : Bool) (mantissa : Nat) (exponent : Int) (count : Nat) : Decimal :=
  let (digits, first) := leadingDigits mantissa exponent count
  let short :=
    if keepPoint then digits
    else digits.take 1 ++ ((digits.drop 1).reverse.dropWhile (· == '0')).reverse
  if first < -4 ∨ (count : Int) ≤ first + (if pointed then 1 else 0) then
    scientific keepPoint short first
  else generalPoint keepPoint pointed short first

def magnitude (l : Layout) (code : Option Char) (mantissa : Nat) (exponent : Int) : Decimal :=
  let (num, den) := Binary64.ratio mantissa exponent
  match code with
  | some 'f' =>
    let places := l.precision.getD 6
    fixedPoint l.alternate (fixedDigits num den places) places
  | some 'e' =>
    let (digits, first) := leadingDigits mantissa exponent (l.precision.getD 6 + 1)
    scientific l.alternate digits first
  | some _ => general l.alternate false mantissa exponent (max (l.precision.getD 6) 1)
  | none =>
    match l.precision with
    | some p => general l.alternate true mantissa exponent (max p 1)
    | none =>
      let text := if mantissa = 0 then ['0', '.', '0'] else shortestText mantissa exponent
      let whole := text.takeWhile Char.isDigit
      let tail := text.drop whole.length
      ⟨whole, if l.alternate && !tail.contains '.' then '.' :: tail else tail⟩

def isZeroText (d : Decimal) : Bool :=
  (d.whole ++ d.tail.takeWhile (· != 'e')).all fun c => c == '0' || c == '.'

def layFloat (l : Layout) (x : Binary64) : List Char :=
  let percent := l.code == some '%'
  let x := if percent then x.mul (.ofInt 100) else x
  let code := if percent then some 'f' else l.code.map fun c => if c == 'n' then 'g' else c.toLower
  let capital := (l.code.map Char.isUpper).getD false
  let spell (cs : List Char) := if capital then cs.map Char.toUpper else cs
  let sign := if percent then ['%'] else []
  match x with
  | .finite negative m e =>
    let d := magnitude l code m e
    let negative := negative && !(l.noNegativeZero && isZeroText d)
    layNumber l negative [] (spell d.whole) (spell d.tail ++ sign)
  | .infinite negative => layNumber l negative [] [] (spell ['i', 'n', 'f'] ++ sign)
  | .nan => layNumber l false [] [] (spell ['n', 'a', 'n'] ++ sign)

def floatCodes : List Char := ['e', 'E', 'f', 'F', 'g', 'G', '%']

def formatFloat (x : Binary64) (spec : List Char) : Except Fault (List Char) := do
  if spec.isEmpty then return x.text.toList
  let l ← Layout.read "float" '>' none spec
  match l.code with
  | none => return layFloat l x
  | some c =>
    if c == 'n' || floatCodes.contains c then return layFloat l x
    else throw (.format (.unknownCode c "float"))

def formatCharacter (l : Layout) (n : Int) : Except Fault (List Char) := do
  if l.sign.isSome then throw (.format .signOnCharacter)
  if l.alternate then throw (.format .alternateOnCharacter)
  if n < -(tooLarge : Int) ∨ (tooLarge : Int) ≤ n then throw .characterTooLarge
  if n < 0 ∨ 0x110000 ≤ n then throw .characterOutOfRange
  return layNumber l false [] [] [Char.ofNat n.toNat]

def baseOf : Char → Nat × List Char
  | 'b' => (2, ['0', 'b'])
  | 'o' => (8, ['0', 'o'])
  | 'x' => (16, ['0', 'x'])
  | 'X' => (16, ['0', 'X'])
  | _ => (10, [])

/-- An integer, or a value of another type that counts as one. -/
def formatInteger (type : String) (n : Int) (spec : List Char) : Except Fault (List Char) := do
  let l ← Layout.read type '>' (some 'd') spec
  let code := l.code.getD 'd'
  if floatCodes.contains code then
    match Binary64.ofInt n with
    | .infinite _ => throw .tooLargeForFloat
    | x => return layFloat l x
  else if "bcdoxXn".toList.contains code then
    if l.precision.isSome then throw (.format .precisionOnInteger)
    if l.noNegativeZero then throw (.format .signlessZeroOnInteger)
    if code == 'c' then formatCharacter l n
    else
      let (base, mark) := baseOf code
      let digits := Nat.toDigits base n.natAbs
      let digits := if code == 'X' then digits.map Char.toUpper else digits
      return layNumber l (n < 0) (if l.alternate then mark else []) digits []
  else throw (.format (.unknownCode code type))

/-- A value in the layout of a specification; without one it stands as it is. -/
def format (d : Datum) (spec : List Char) : Except Fault (List Char) :=
  match d with
  | .text s => formatText s spec
  | .float x => formatFloat x spec
  | .int n => if spec.isEmpty then .ok (toString n).toList else formatInteger "int" n spec
  | .bool b =>
    if spec.isEmpty then .ok d.plain.toList else formatInteger "bool" (if b then 1 else 0) spec
  | d => if spec.isEmpty then .ok d.plain.toList else .error (.plainFormatOnly d.typeName)

end Conformance.Template
