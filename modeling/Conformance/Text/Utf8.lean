import Conformance.Text.Quoted

/-! Where and why bytes are no text in UTF-8. -/
namespace Conformance.Text

/-- The first fault in some bytes: the place of the sequence at fault, the bytes of it that were
read, and what is wrong. -/
structure Utf8Fault where
  position : Nat
  bytes : List UInt8
  reason : String
  deriving DecidableEq, Repr, Inhabited

def isContinuation (b : UInt8) : Bool := 0x80 ≤ b && b < 0xC0

def sequenceLength? (first : UInt8) : Option Nat :=
  if first < 0x80 then some 1
  else if first < 0xC2 then none
  else if first < 0xE0 then some 2
  else if first < 0xF0 then some 3
  else if first < 0xF5 then some 4
  else none

/-- Whether a second byte continues a first one: not every byte does where that would spell a
character in more bytes than it needs, half of a pair, or a number beyond the last character. -/
def isSecond (first second : UInt8) : Bool :=
  isContinuation second
    && (if first == 0xE0 then 0xA0 ≤ second
      else if first == 0xED then second < 0xA0
      else if first == 0xF0 then 0x90 ≤ second
      else if first == 0xF4 then second < 0x90
      else true)

def continued (first : UInt8) (wanted : Nat) (rest : List UInt8) : Nat :=
  match rest.take wanted with
  | [] => 0
  | second :: others =>
    if isSecond first second then 1 + (others.takeWhile isContinuation).length else 0

def utf8FaultFrom (position : Nat) (bytes : List UInt8) (fuel : Nat) : Option Utf8Fault :=
  match fuel, bytes with
  | 0, _ | _, [] => none
  | fuel + 1, first :: rest =>
    match sequenceLength? first with
    | none => some ⟨position, [first], "invalid start byte"⟩
    | some length =>
      let more := continued first (length - 1) rest
      if more = length - 1 then utf8FaultFrom (position + length) (rest.drop (length - 1)) fuel
      else if more = rest.length then some ⟨position, first :: rest, "unexpected end of data"⟩
      else some ⟨position, first :: rest.take more, "invalid continuation byte"⟩

def utf8Fault (bytes : ByteArray) : Utf8Fault :=
  (utf8FaultFrom 0 bytes.toList bytes.size).getD default

def Utf8Fault.message (f : Utf8Fault) : String :=
  let start := "'utf-8' codec can't decode byte"
  match f.bytes with
  | [b] => start ++ " 0x" ++ String.ofList (hex 2 b.toNat) ++ s!" in position {f.position}: {f.reason}"
  | bs => start ++ s!"s in position {f.position}-{f.position + bs.length - 1}: {f.reason}"

end Conformance.Text
