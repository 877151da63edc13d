import Conformance.Datum.Basic
import Conformance.Number.Reader
import Conformance.Text.Case
import Conformance.Yaml.Fault
import Conformance.Yaml.Tag

/-! The values of tagged scalars. -/
namespace Conformance.Yaml

open Number

/-- The number that digits in base sixty stand for, the last digit being the units. -/
def sexagesimal (digits : List Int) : Int := digits.foldl (fun n d => 60 * n + d) 0

def notAnInteger (base : Nat) (s : List Char) : Fault :=
  .badValue (s!"invalid literal for int() with base {base}: " ++ Text.quoted (String.ofList s))

def notAFloat (s : List Char) : Fault :=
  .badValue ("could not convert string to float: " ++ Text.quoted (String.ofList s))

def intIn (base : Nat) (s : List Char) : Except Fault Int :=
  match intOfText? base s with
  | some n => .ok n
  | none => .error (notAnInteger base s)

def withoutUnderscores (text : String) : List Char := text.toList.filter (· != '_')

/-- A whole number: binary after `0b`, hexadecimal after `0x`, octal after another zero, in base
sixty with colons, and decimal otherwise. -/
def intValue (text : String) : Except Fault Int := do
  let s := withoutUnderscores text
  if s.isEmpty then throw .emptyNumber
  let (negative, s) := splitSign s
  let n ← match s with
    | ['0'] => pure 0
    | '0' :: 'b' :: rest => intIn 2 rest
    | '0' :: 'x' :: rest => intIn 16 rest
    | '0' :: _ => intIn 8 s
    | [] => throw .emptyNumber
    | _ =>
      if s.contains ':' then do
        let digits ← (Text.splitAtEach ':' s).mapM (intIn 10)
        pure (sexagesimal digits)
      else intIn 10 s
  return if negative then -n else n

def floatOf (s : List Char) : Except Fault Binary64 :=
  match floatOfText? s with
  | some x => .ok x
  | none => .error (notAFloat s)

def sexagesimalFloat (units : List Binary64) : Binary64 :=
  let step (acc : Binary64 × Nat) (x : Binary64) : Binary64 × Nat :=
    (acc.1.add (x.mul (.ofInt acc.2)), acc.2 * 60)
  (units.foldl step (.zero false, 1)).1

def floatValue (text : String) : Except Fault Binary64 := do
  let s := (Text.lower (String.ofList (withoutUnderscores text))).toList
  if s.isEmpty then throw .emptyNumber
  let (negative, s) := splitSign s
  let x ←
    if s == ['.', 'i', 'n', 'f'] then pure (.infinite false)
    else if s == ['.', 'n', 'a', 'n'] then pure .nan
    else if s.contains ':' then do
      let parts ← (Text.splitAtEach ':' s).mapM floatOf
      pure (sexagesimalFloat parts.reverse)
    else floatOf s
  return if negative then x.neg else x

def boolValue (text : String) : Except Fault Bool :=
  let small := Text.lower text
  match boolWords.lookup small with
  | some b => .ok b
  | none => .error (.unknownWord small)

def natOf (s : List Char) : Nat := decimalDigits s

def microseconds (digits : List Char) : Nat :=
  natOf ((digits ++ List.replicate 6 '0').take 6)

def offsetOf : Option (Char × List Char × List Char) → Int
  | none => 0
  | some (sign, hours, minutes) =>
    let seconds : Int := (natOf hours * 60 + natOf minutes) * 60
    if sign == '-' then -seconds else seconds

def timestampValue (text : String) : Except Fault Scalar :=
  match timestamp? text.toList with
  | none => .error .noTimestamp
  | some t =>
    let date : Date := ⟨natOf t.year, natOf t.month, natOf t.day⟩
    match t.time with
    | none =>
      match date.fault? with
      | some message => .error (.badValue message)
      | none => .ok (.date date)
    | some (hour, minute, second, fraction) =>
      let m : Moment :=
        ⟨date, natOf hour, natOf minute, natOf second, microseconds fraction, t.zone.map offsetOf⟩
      match m.fault? with
      | some message => .error (.badValue message)
      | none => .ok (.moment m)

def sixBits? (c : Char) : Option Nat :=
  if 'A' ≤ c ∧ c ≤ 'Z' then some (c.toNat - 'A'.toNat)
  else if 'a' ≤ c ∧ c ≤ 'z' then some (c.toNat - 'a'.toNat + 26)
  else if '0' ≤ c ∧ c ≤ '9' then some (c.toNat - '0'.toNat + 52)
  else if c == '+' then some 62
  else if c == '/' then some 63
  else none

/-- Reads characters of six bits; others are passed over. `held` are the characters of the group
under way, and `pads` the padding after them. -/
def sextets (held : List Nat) (pads : Nat) : List Char → Option (List Nat)
  | [] => if held.isEmpty then some [] else none
  | c :: rest =>
    if c == '=' then
      if 2 ≤ held.length && 4 ≤ held.length + pads + 1 then some held
      else sextets held (if 2 ≤ held.length then pads + 1 else pads) rest
    else match sixBits? c with
      | none => sextets held pads rest
      | some bits =>
        if held.length = 3 then do
          let others ← sextets [] 0 rest
          return held ++ bits :: others
        else sextets (held ++ [bits]) 0 rest

def bytesOf : List Nat → List UInt8
  | a :: b :: c :: d :: rest =>
    let n := ((a * 64 + b) * 64 + c) * 64 + d
    UInt8.ofNat (n / 65536) :: UInt8.ofNat (n / 256 % 256) :: UInt8.ofNat (n % 256) :: bytesOf rest
  | [a, b, c] => [UInt8.ofNat (a * 4 + b / 16), UInt8.ofNat (b % 16 * 16 + c / 4)]
  | [a, b] => [UInt8.ofNat (a * 4 + b / 16)]
  | _ => []

def binaryValue (text : String) : Except Fault (List UInt8) :=
  if text.toList.all fun c => c.toNat < 0x80 then
    match sextets [] 0 text.toList with
    | some found => .ok (bytesOf found)
    | none => .error .malformed
  else .error .malformed

def Tag.value (tag : Tag) (text : String) : Except Fault Scalar :=
  match tag with
  | null => .ok .null
  | bool => Scalar.bool <$> boolValue text
  | int => Scalar.int <$> intValue text
  | float => Scalar.float <$> floatValue text
  | binary => Scalar.bytes <$> binaryValue text
  | timestamp => timestampValue text
  | Tag.text => .ok (.text text)
  | sequence | mapping | set | merge | default | other _ => .error .malformed

end Conformance.Yaml
