import Conformance.Text.Quoted

/-! What can be wrong with a message template or with the values put into it. -/
namespace Conformance.Template

inductive Malformation
  | loneOpening
  | loneClosing
  | unclosedField
  | openingInName
  | unclosedSpec
  | missingConversion
  | noColonAfterConversion
  | unknownConversion (c : Char)
  | emptyAttribute
  | missingBracket
  | textAfterBracket
  | tooManyDigits
  | nestedTooDeep
  deriving DecidableEq, Repr

inductive FormatFault
  | invalid (spec type : String)
  | unknownCode (code : Char) (type : String)
  | bothSeparators
  | separatorWith (separator code : Char)
  | missingPrecision
  | signOnText
  | spaceOnText
  | signlessZeroOnText
  | alternateOnText
  | numericAlignmentOnText
  | precisionOnInteger
  | signlessZeroOnInteger
  | signOnCharacter
  | alternateOnCharacter
  deriving DecidableEq, Repr

inductive Fault
  | malformed (m : Malformation)
  | format (f : FormatFault)
  | unknownField (name : String)
  | missingKey (literal : String)
  | noPosition (index : Nat)
  | textTooShort
  | listTooShort
  | notIndexed (type : String)
  | textIndexedByName
  | listIndexedByName
  | noAttribute (type name : String)
  | plainFormatOnly (type : String)
  | characterOutOfRange
  | characterTooLarge
  | tooLargeForFloat
  deriving DecidableEq, Repr

def shown (c : Char) : String :=
  if 0x20 < c.toNat ∧ c.toNat < 0x80 then String.ofList [c]
  else "\\x" ++ String.ofList (Nat.toDigits 16 c.toNat)

def Malformation.message : Malformation → String
  | loneOpening => "Single '\x7b' encountered in format string"
  | loneClosing => "Single '\x7d' encountered in format string"
  | unclosedField => "expected '\x7d' before end of string"
  | openingInName => "unexpected '\x7b' in field name"
  | unclosedSpec => "unmatched '\x7b' in format spec"
  | missingConversion => "end of string while looking for conversion specifier"
  | noColonAfterConversion => "expected ':' after conversion specifier"
  | unknownConversion c => "Unknown conversion specifier " ++ shown c
  | emptyAttribute => "Empty attribute in format string"
  | missingBracket => "Missing ']' in format string"
  | textAfterBracket => "Only '.' or '[' may follow ']' in format field specifier"
  | tooManyDigits => "Too many decimal digits in format string"
  | nestedTooDeep => "Max string recursion exceeded"

def FormatFault.message : FormatFault → String
  | invalid spec type => s!"Invalid format specifier '{spec}' for object of type '{type}'"
  | unknownCode code type =>
    s!"Unknown format code '" ++ shown code ++ s!"' for object of type '{type}'"
  | bothSeparators => "Cannot specify both ',' and '_'."
  | separatorWith separator code =>
    "Cannot specify '" ++ String.ofList [separator] ++ "' with '" ++ shown code ++ "'."
  | missingPrecision => "Format specifier missing precision"
  | signOnText => "Sign not allowed in string format specifier"
  | spaceOnText => "Space not allowed in string format specifier"
  | signlessZeroOnText => "Negative zero coercion (z) not allowed in string format specifier"
  | alternateOnText => "Alternate form (#) not allowed in string format specifier"
  | numericAlignmentOnText => "'=' alignment not allowed in string format specifier"
  | precisionOnInteger => "Precision not allowed in integer format specifier"
  | signlessZeroOnInteger => "Negative zero coercion (z) not allowed in integer format specifier"
  | signOnCharacter => "Sign not allowed with integer format specifier 'c'"
  | alternateOnCharacter => "Alternate form (#) not allowed with integer format specifier 'c'"

def Fault.message : Fault → String
  | malformed m => m.message
  | format f => f.message
  | unknownField name => Text.quoted name
  | missingKey literal => literal
  | noPosition index => s!"Replacement index {index} out of range for positional args tuple"
  | textTooShort => "string index out of range"
  | listTooShort => "list index out of range"
  | notIndexed type => s!"'{type}' object is not subscriptable"
  | textIndexedByName => "string indices must be integers, not 'str'"
  | listIndexedByName => "list indices must be integers or slices, not str"
  | noAttribute type name => s!"'{type}' object has no attribute '{name}'"
  | plainFormatOnly type => s!"unsupported format string passed to {type}.__format__"
  | characterTooLarge => "Python int too large to convert to C long"
  | characterOutOfRange => "%c arg not in range(0x110000)"
  | tooLargeForFloat => "int too large to convert to float"

end Conformance.Template
