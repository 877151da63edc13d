import Conformance.Number.Text
import Conformance.Template.Fault
import Conformance.Text.Class

/-! Format specifications: fill and alignment, sign, width, separators of thousands, precision
and a code for the kind of text wanted. -/
namespace Conformance.Template

structure Layout where
  fill : Char
  align : Char
  sign : Option Char
  noNegativeZero : Bool
  alternate : Bool
  width : Option Nat
  separator : Option Char
  precision : Option Nat
  code : Option Char
  deriving DecidableEq, Repr, Inhabited

def isAlignment (c : Char) : Bool := c == '<' || c == '>' || c == '=' || c == '^'

def isSign (c : Char) : Bool := c == ' ' || c == '+' || c == '-'

/-- The least number too large for a length or a character: 2 ^ 63. -/
def tooLarge : Nat := 0x8000000000000000

def digitRun (s : List Char) : Except Fault (Option Nat × List Char) :=
  let ds := s.takeWhile fun c => (Text.digitValue? c).isSome
  let n := ds.foldl (fun n c => 10 * n + (Text.digitValue? c).getD 0) 0
  if tooLarge ≤ n then .error (.malformed .tooManyDigits)
  else .ok (if ds.isEmpty then none else some n, s.drop ds.length)

def takeIf (ok : Char → Bool) : List Char → Option Char × List Char
  | [] => (none, [])
  | c :: rest => if ok c then (some c, rest) else (none, c :: rest)

namespace Layout

/-- Codes with which a separator goes, and how many digits it then separates. -/
def groupSize? (separator : Char) : Option Char → Option Nat
  | none => some 3
  | some c =>
    if "defgEG%F".toList.contains c then some 3
    else if "boxX".toList.contains c && separator == '_' then some 4
    else none

/-- Reads a specification for a value of the named type, with its usual alignment and code. -/
def read (type : String) (align : Char) (code : Option Char) (spec : List Char) :
    Except Fault Layout := do
  let (fill, aligned, rest) : Option Char × Option Char × List Char :=
    match spec with
    | f :: a :: rest =>
      if isAlignment a then (some f, some a, rest)
      else if isAlignment f then (none, some f, a :: rest)
      else (none, none, spec)
    | [a] => if isAlignment a then (none, some a, []) else (none, none, spec)
    | [] => (none, none, [])
  let (sign, rest) := takeIf isSign rest
  let (z, rest) := takeIf (· == 'z') rest
  let (hash, rest) := takeIf (· == '#') rest
  let (padding, rest) :=
    if fill.isNone then takeIf (· == '0') rest else (none, rest)
  let align :=
    aligned.getD (if padding.isSome && align == '>' then '=' else align)
  let (width, rest) ← digitRun rest
  let (comma, rest) := takeIf (· == ',') rest
  let (underscore, rest) := takeIf (· == '_') rest
  if underscore.isSome && (comma.isSome || rest.head? == some ',') then
    throw (.format .bothSeparators)
  let separator := comma.or underscore
  let (point, rest) := takeIf (· == '.') rest
  let (precision, rest) ← if point.isSome then digitRun rest else pure (none, rest)
  if point.isSome && precision.isNone then throw (.format .missingPrecision)
  let code ← match rest with
    | [] => pure code
    | [c] => pure (some c)
    | _ => throw (.format (.invalid (String.ofList spec) type))
  if let some s := separator then
    if (groupSize? s code).isNone then throw (.format (.separatorWith s (code.getD ' ')))
  return { fill := (fill.or padding).getD ' ', align, sign, noNegativeZero := z.isSome,
           alternate := hash.isSome, width, separator, precision, code }

end Layout

def pad (l : Layout) (sign body : List Char) : List Char :=
  let total := l.width.getD 0 - (sign.length + body.length)
  let fill (n : Nat) := List.replicate n l.fill
  if l.align == '<' then sign ++ body ++ fill total
  else if l.align == '^' then fill (total / 2) ++ sign ++ body ++ fill (total - total / 2)
  else if l.align == '=' then sign ++ fill total ++ body
  else fill total ++ sign ++ body

/-- Digits in groups from the right, filled with zeros up to `width` characters; `digits` come
last first. -/
def groupDigits (separator : Char) (size : Nat) : Nat → Int → List Char → List Char
  | 0, _, digits => digits.reverse
  | fuel + 1, width, digits =>
    let count := min size (max (max digits.length width.toNat) 1)
    let here := digits.take count
    let group := List.replicate (count - here.length) '0' ++ here.reverse
    let rest := digits.drop count
    let left := width - count
    if rest.isEmpty && left ≤ 0 then group
    else groupDigits separator size fuel (left - 1) rest ++ separator :: group

/-- A number in its layout: the sign, a prefix such as `0x`, the digits before the point, and
everything after them. -/
def layNumber (l : Layout) (negative : Bool) (base digits tail : List Char) : List Char :=
  let sign :=
    if negative then ['-']
    else match l.sign with
      | some '+' => ['+']
      | some ' ' => [' ']
      | _ => []
  let least : Int :=
    if l.fill == '0' && l.align == '=' then
      (l.width.getD 0 : Int) - (sign.length + base.length + tail.length)
    else 0
  let grouped :=
    if digits.isEmpty then []
    else match l.separator with
      | none => List.replicate (least.toNat - digits.length) '0' ++ digits
      | some s =>
        groupDigits s ((Layout.groupSize? s l.code).getD 3) (digits.length + least.toNat + 1) least
          digits.reverse
  pad l (sign ++ base) (grouped ++ tail)

end Conformance.Template
