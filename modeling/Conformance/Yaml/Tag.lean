import Conformance.Text.Split

/-! Tags of YAML nodes, and the tags that plain scalars have by their look. -/
namespace Conformance.Yaml

/-- `merge` marks a key whose value is spread into its mapping, and `default` a key that stands for
the mapping as a whole. -/
inductive Tag
  | null
  | bool
  | int
  | float
  | binary
  | timestamp
  | text
  | sequence
  | mapping
  | set
  | merge
  | default
  | other (name : String)
  deriving DecidableEq, Repr, Inhabited

namespace Tag

def commonStart : String := "tag:yaml.org,2002:"

def common : List (String × Tag) := [
  ("null", null), ("bool", bool), ("int", int), ("float", float), ("binary", binary),
  ("timestamp", timestamp), ("str", text), ("seq", sequence), ("map", mapping), ("set", set),
  ("merge", merge), ("value", default)]

def ofName (name : String) : Tag :=
  match (Text.afterPrefix? commonStart.toList name.toList).bind fun word =>
    common.lookup (String.ofList word) with
  | some tag => tag
  | none => other name

end Tag

/-! The look of plain scalars. -/

def isDigitOrLine (c : Char) : Bool := c.isDigit || c == '_'

def withoutSign : List Char → List Char
  | '+' :: rest => rest
  | '-' :: rest => rest
  | s => s

def isSixtieth : List Char → Bool
  | [a] => a.isDigit
  | [a, b] => '0' ≤ a && a ≤ '5' && b.isDigit
  | _ => false

def isDigits (allowsZero : Bool) : List Char → Bool
  | a :: rest => a.isDigit && (allowsZero || a != '0') && rest.all isDigitOrLine
  | [] => false

def isSexagesimal (allowsZero : Bool) (s : List Char) : Bool :=
  match Text.splitAtEach ':' s with
  | first :: part :: parts => isDigits allowsZero first && (part :: parts).all isSixtieth
  | _ => false

def looksInt (s : List Char) : Bool :=
  let isBit (c : Char) : Bool := c == '0' || c == '1' || c == '_'
  let isOctal (c : Char) : Bool := ('0' ≤ c && c ≤ '7') || c == '_'
  let isHex (c : Char) : Bool :=
    isDigitOrLine c || ('a' ≤ c && c ≤ 'f') || ('A' ≤ c && c ≤ 'F')
  let unsigned := withoutSign s
  match unsigned with
  | '0' :: 'b' :: rest => !rest.isEmpty && rest.all isBit
  | '0' :: 'x' :: rest => !rest.isEmpty && rest.all isHex
  | '0' :: rest => rest.all isOctal
  | _ => isDigits false unsigned || isSexagesimal false unsigned

def isExponent : List Char → Bool
  | [] => true
  | e :: sign :: rest =>
    (e == 'e' || e == 'E') && (sign == '+' || sign == '-') && !rest.isEmpty && rest.all Char.isDigit
  | _ => false

def looksFloat (s : List Char) : Bool :=
  let unsigned := withoutSign s
  let isOneOf (words : List String) (s : List Char) : Bool := words.contains (String.ofList s)
  let whole := unsigned.takeWhile (· != '.')
  match unsigned.dropWhile (· != '.') with
  | [] => false
  | _ :: after =>
    let exponent := after.dropWhile isDigitOrLine
    (isDigits true whole && isExponent exponent)
      || (unsigned == s && whole.isEmpty && isDigits true (after.takeWhile isDigitOrLine)
        && isExponent exponent)
      || (isSexagesimal true whole && exponent.isEmpty)
      || (whole.isEmpty && isOneOf ["inf", "Inf", "INF"] after)
      || (unsigned == s && whole.isEmpty && isOneOf ["nan", "NaN", "NAN"] after)

/-- The parts of a date and a time of day as they are written. A zone is a sign with hours and
minutes, or universal time. -/
structure Timestamp where
  year : List Char
  month : List Char
  day : List Char
  time : Option (List Char × List Char × List Char × List Char)
  zone : Option (Option (Char × List Char × List Char))
  deriving DecidableEq, Repr

def oneOrTwoDigits? (s : List Char) : Option (List Char × List Char) :=
  match (s.takeWhile Char.isDigit).take 2 with
  | [] => none
  | digits => some (digits, s.drop digits.length)

def digits? (count : Nat) (s : List Char) : Option (List Char × List Char) :=
  let digits := s.take count
  if digits.length = count && digits.all Char.isDigit then some (digits, s.drop count) else none

def after? (c : Char) : List Char → Option (List Char)
  | d :: rest => if d == c then some rest else none
  | [] => none

/-- A zone up to the end of the text. -/
def zone? (s : List Char) : Option (Option (Option (Char × List Char × List Char))) :=
  match s.dropWhile fun c => c == ' ' || c == '\t' with
  | [] => if s.isEmpty then some none else none
  | ['Z'] => some (some none)
  | sign :: rest => do
    if sign != '+' && sign != '-' then none
    else
      let (hours, rest) ← oneOrTwoDigits? rest
      match rest with
      | [] => return some (some (sign, hours, []))
      | rest => do
        let (minutes, rest) ← digits? 2 (← after? ':' rest)
        if rest.isEmpty then return some (some (sign, hours, minutes)) else none

def time? (s : List Char) : Option ((List Char × List Char × List Char × List Char) × List Char) := do
  let (hour, s) ← oneOrTwoDigits? s
  let (minute, s) ← digits? 2 (← after? ':' s)
  let (second, s) ← digits? 2 (← after? ':' s)
  match s with
  | '.' :: rest => return ((hour, minute, second, rest.takeWhile Char.isDigit), rest.dropWhile Char.isDigit)
  | rest => return ((hour, minute, second, []), rest)

def timestamp? (s : List Char) : Option Timestamp := do
  let (year, s) ← digits? 4 s
  let (month, s) ← oneOrTwoDigits? (← after? '-' s)
  let (day, s) ← oneOrTwoDigits? (← after? '-' s)
  match s with
  | [] => return ⟨year, month, day, none, none⟩
  | c :: rest =>
    let isGap (c : Char) : Bool := c == ' ' || c == '\t'
    let rest ← if c == 'T' || c == 't' then some rest
      else if isGap c then some (rest.dropWhile isGap) else none
    let (time, rest) ← time? rest
    return ⟨year, month, day, some time, ← zone? rest⟩

/-- A plain date has two digits for month and day; with a time of day one is enough. -/
def looksTimestamp (s : List Char) : Bool :=
  match timestamp? s with
  | some t => t.time.isSome || (t.month.length == 2 && t.day.length == 2)
  | none => false

def boolWords : List (String × Bool) :=
  [("yes", true), ("no", false), ("true", true), ("false", false), ("on", true), ("off", false)]

def looksBool (s : List Char) : Bool :=
  boolWords.any fun (word, _) =>
    let small := word.toList
    let capitals := small.map Char.toUpper
    s == small || s == capitals || s == capitals.take 1 ++ small.drop 1

def Tag.ofPlain (text : String) : Tag :=
  let s := text.toList
  if looksBool s then bool
  else if looksFloat s then float
  else if looksInt s then int
  else if text == "<<" then merge
  else if ["", "~", "null", "Null", "NULL"].contains text then null
  else if looksTimestamp s then timestamp
  else if text == "=" then default
  else if ["!", "&", "*"].contains text then other (commonStart ++ "yaml")
  else Tag.text

end Conformance.Yaml
