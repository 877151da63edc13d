/-! Pairs of sixteen-bit code units, as escapes write the characters beyond the first plane. -/
namespace Conformance.Text

def isHigh (unit : Nat) : Bool := 0xD800 ≤ unit && unit < 0xDC00

def isLow (unit : Nat) : Bool := 0xDC00 ≤ unit && unit < 0xE000

def joinUnits (high low : Nat) : Nat := 0x10000 + (high - 0xD800) * 0x400 + (low - 0xDC00)

/-- A code unit by itself; half of a pair stands for no character. -/
def unitChar (unit : Nat) : Char :=
  if isHigh unit || isLow unit then '\uFFFD' else Char.ofNat unit

end Conformance.Text
