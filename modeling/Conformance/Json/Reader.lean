import Conformance.Datum.Basic
import Conformance.Text.CodeUnit
import Conformance.Text.Digit
import Conformance.Text.Split

/-! Reading JSON text. Entries keep their order, whole numbers stay apart from fractions, and a
repeated key takes its last value at its first place. -/
namespace Conformance.Json

open Number Text

def isSpace (c : Char) : Bool := c == ' ' || c == '\t' || c == '\n' || c == '\r'

def skipSpace (s : List Char) : List Char := s.dropWhile isSpace

def shortEscape? : Char → Option Char
  | '"' => some '"'
  | '\\' => some '\\'
  | '/' => some '/'
  | 'b' => some '\x08'
  | 'f' => some '\x0c'
  | 'n' => some '\n'
  | 'r' => some '\r'
  | 't' => some '\t'
  | _ => none

/-- The characters of a string after its opening quote, and what follows the closing one. `half`
is the first half of a pair that was read just before. -/
def readChars (half : Option Nat) : List Char → Option (List Char × List Char)
  | [] => none
  | '\\' :: 'u' :: a :: b :: c :: d :: rest => do
    let unit ← hexNumber? [a, b, c, d]
    match half with
    | some high =>
      if isLow unit then
        let (cs, rest) ← readChars none rest
        return (Char.ofNat (joinUnits high unit) :: cs, rest)
      else if isHigh unit then
        let (cs, rest) ← readChars (some unit) rest
        return (unitChar high :: cs, rest)
      else
        let (cs, rest) ← readChars none rest
        return (unitChar high :: unitChar unit :: cs, rest)
    | none =>
      if isHigh unit then readChars (some unit) rest
      else
        let (cs, rest) ← readChars none rest
        return (unitChar unit :: cs, rest)
  | c :: rest =>
    let before := (half.map unitChar).toList
    if c == '"' then some (before, rest)
    else if c == '\\' then
      match rest with
      | [] => none
      | e :: rest => do
        let x ← shortEscape? e
        let (cs, rest) ← readChars none rest
        return (before ++ x :: cs, rest)
    else if c.toNat < 0x20 then none
    else do
      let (cs, rest) ← readChars none rest
      return (before ++ c :: cs, rest)

def digits (s : List Char) : List Char × List Char := (s.takeWhile isDigit, s.dropWhile isDigit)

def readExponent? (s : List Char) : Option (Int × List Char) :=
  match s with
  | c :: rest =>
    if c == 'e' || c == 'E' then
      let (negative, rest) := match rest with
        | '-' :: r => (true, r)
        | '+' :: r => (false, r)
        | r => (false, r)
      match digits rest with
      | ([], _) => none
      | (ds, rest) =>
        let n : Int := decimal ds
        some (if negative then -n else n, rest)
    else none
  | [] => none

/-- A number: digits without a leading zero, then perhaps a fraction and an exponent, either of
which makes it a floating-point number. -/
def readNumber (s : List Char) : Option (Datum × List Char) :=
  let (negative, s) := match s with
    | '-' :: r => (true, r)
    | r => (false, r)
  let whole? := match s with
    | '0' :: r => some (['0'], r)
    | s => match digits s with
      | ([], _) => none
      | found => some found
  match whole? with
  | none => none
  | some (whole, rest) =>
    let (fraction, rest) := match rest with
      | '.' :: r => match digits r with
        | ([], _) => ([], rest)
        | found => found
      | r => ([], r)
    match readExponent? rest with
    | some (e, rest) =>
      some (.float (.ofDecimal negative (decimal (whole ++ fraction)) (e - fraction.length)), rest)
    | none =>
      if fraction.isEmpty then
        let n : Int := decimal whole
        some (.int (if negative then -n else n), rest)
      else
        some (.float (.ofDecimal negative (decimal (whole ++ fraction)) (-fraction.length)), rest)

def readWord? (s : List Char) : Option (Datum × List Char) :=
  [("null", Datum.null), ("true", .bool true), ("false", .bool false),
    ("NaN", .float .nan), ("Infinity", .float (.infinite false)),
    ("-Infinity", .float (.infinite true))].findSome? fun (word, value) =>
      (Text.afterPrefix? word.toList s).map (value, ·)

mutual

/-- A value at the start of the text and what follows it; `fuel` bounds the depth and the length
of what is read. -/
def readValue (fuel : Nat) (s : List Char) : Option (Datum × List Char) :=
  match fuel with
  | 0 => none
  | fuel + 1 =>
    match s with
    | '"' :: rest => (readChars none rest).map fun (cs, rest) => (.text (String.ofList cs), rest)
    | '[' :: rest =>
      match skipSpace rest with
      | ']' :: rest => some (.list [], rest)
      | rest => (readItems fuel rest).map fun (items, rest) => (.list items, rest)
    | '{' :: rest =>
      match skipSpace rest with
      | '}' :: rest => some (.mapping [], rest)
      | rest => (readEntries fuel rest []).map fun (entries, rest) => (.mapping entries, rest)
    | s => (readWord? s).or (readNumber s)

def readItems (fuel : Nat) (s : List Char) : Option (List Datum × List Char) :=
  match fuel with
  | 0 => none
  | fuel + 1 => do
    let (item, rest) ← readValue fuel s
    match skipSpace rest with
    | ',' :: rest =>
      let (items, rest) ← readItems fuel (skipSpace rest)
      return (item :: items, rest)
    | ']' :: rest => return ([item], rest)
    | _ => none

def readEntries (fuel : Nat) (s : List Char) (before : List (Scalar × Datum)) :
    Option (List (Scalar × Datum) × List Char) :=
  match fuel with
  | 0 => none
  | fuel + 1 =>
    match s with
    | '"' :: rest => do
      let (key, rest) ← readChars none rest
      match skipSpace rest with
      | ':' :: rest =>
        let (value, rest) ← readValue fuel (skipSpace rest)
        let entries := Datum.insert (.text (String.ofList key)) value before
        match skipSpace rest with
        | ',' :: rest => readEntries fuel (skipSpace rest) entries
        | '}' :: rest => return (entries, rest)
        | _ => none
      | _ => none
    | _ => none

end

def read? (s : String) : Option Datum := do
  let cs := s.toList
  let (value, rest) ← readValue (cs.length + 1) (skipSpace cs)
  if (skipSpace rest).isEmpty then some value else none

end Conformance.Json
