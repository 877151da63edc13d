import Conformance.Template.Format

/-! Message templates: text with fields in braces. A field names a value, may ask for a part of
it, may convert it, and may give a format specification that holds fields itself. Doubled braces
stand for one brace. -/
namespace Conformance.Template

/-- The values that the fields of a template name. -/
abbrev Values := List (String × Datum)

structure Field where
  name : List Char
  conversion : Option Char
  spec : List Char
  nested : Bool
  deriving DecidableEq, Repr

def throughBracket : List Char → List Char × List Char
  | [] => ([], [])
  | ']' :: rest => ([], ']' :: rest)
  | c :: rest => let (inside, rest) := throughBracket rest; (c :: inside, rest)

/-- The name of a field, the character that ends it, and what follows; `fuel` bounds the number
of characters read. -/
def readName : Nat → List Char → Except Malformation (List Char × Char × List Char)
  | 0, _ => .error .unclosedField
  | _, [] => .error .unclosedField
  | fuel + 1, c :: rest =>
    if c == '{' then .error .openingInName
    else if c == '}' || c == ':' || c == '!' then .ok ([], c, rest)
    else
      let (inside, after) := if c == '[' then throughBracket rest else ([], rest)
      (readName fuel after).map fun (name, stop, rest) => (c :: inside ++ name, stop, rest)

def readSpec (depth : Nat) : List Char → Except Malformation (List Char × Bool × List Char)
  | [] => .error .unclosedSpec
  | c :: rest =>
    if c == '}' && depth == 0 then .ok ([], false, rest)
    else
      let deeper := if c == '{' then depth + 1 else if c == '}' then depth - 1 else depth
      (readSpec deeper rest).map fun (spec, nested, rest) => (c :: spec, nested || c == '{', rest)

def readField (s : List Char) : Except Malformation (Field × List Char) := do
  let (name, stop, rest) ← readName (s.length + 1) s
  if stop == '}' then return (⟨name, none, [], false⟩, rest)
  if stop == ':' then
    let (spec, nested, rest) ← readSpec 0 rest
    return (⟨name, none, spec, nested⟩, rest)
  match rest with
  | [] => throw .missingConversion
  | [_] => throw .unclosedSpec
  | c :: '}' :: rest => return (⟨name, some c, [], false⟩, rest)
  | c :: ':' :: rest =>
    let (spec, nested, rest) ← readSpec 0 rest
    return (⟨name, some c, spec, nested⟩, rest)
  | _ => throw .noColonAfterConversion

inductive Piece
  | char (c : Char)
  | field (f : Field)
  deriving DecidableEq, Repr

def nextPiece (c : Char) (rest : List Char) : Except Malformation (Piece × List Char) :=
  if c == '{' then
    match rest with
    | [] => .error .loneOpening
    | '{' :: rest => .ok (.char '{', rest)
    | rest => (readField rest).map fun (f, rest) => (.field f, rest)
  else if c == '}' then
    match rest with
    | '}' :: rest => .ok (.char '}', rest)
    | _ => .error .loneClosing
  else .ok (.char c, rest)

inductive Step
  | member (name : List Char)
  | index (n : Nat)
  | key (name : List Char)
  deriving DecidableEq, Repr

def wholeNumber? (s : List Char) : Except Fault (Option Nat) := do
  let (n, rest) ← digitRun s
  return if rest.isEmpty then n else none

def isStepStart (c : Char) : Bool := c == '.' || c == '['

/-- The steps after the first part of a field's name; `fuel` bounds their number. -/
def readStep (s : List Char) : Except Fault (Option (Step × List Char)) := do
  match s with
  | [] => return none
  | '.' :: rest =>
    let name := rest.takeWhile fun c => !isStepStart c
    if name.isEmpty then throw (.malformed .emptyAttribute)
    return some (.member name, rest.drop name.length)
  | '[' :: rest =>
    let name := rest.takeWhile (· != ']')
    if name.length = rest.length then throw (.malformed .missingBracket)
    let number ← wholeNumber? name
    if name.isEmpty then throw (.malformed .emptyAttribute)
    let after := rest.drop (name.length + 1)
    return some (match number with | some n => .index n | none => .key name, after)
  | _ => throw (.malformed .textAfterBracket)

/-- The part of a value that a step leads to. The only parts with names are numbers in numbers: a
text is named as a whole. -/
def Step.apply (d : Datum) : Step → Except Fault Datum
  | .member name =>
    let whole (n : Int) : Except Fault Datum :=
      if name == "real".toList || name == "numerator".toList then .ok (.int n)
      else if name == "imag".toList then .ok (.int 0)
      else if name == "denominator".toList then .ok (.int 1)
      else .error (.noAttribute d.typeName (String.ofList name))
    match d with
    | .int n => whole n
    | .bool b => whole (if b then 1 else 0)
    | .float x =>
      if name == "real".toList then .ok (.float x)
      else if name == "imag".toList then .ok (.float (.zero false))
      else .error (.noAttribute d.typeName (String.ofList name))
    | d => .error (.noAttribute d.typeName (String.ofList name))
  | .index n =>
    match d with
    | .text s =>
      match s.toList[n]? with
      | some c => .ok (.text (String.ofList [c]))
      | none => .error .textTooShort
    | .list items =>
      match items[n]? with
      | some item => .ok item
      | none => .error .listTooShort
    | .mapping entries =>
      match entries.findSome? fun e => if e.1.same (.int n) then some e.2 else none with
      | some value => .ok value
      | none => .error (.missingKey (toString n))
    | d => .error (.notIndexed d.typeName)
  | .key name =>
    match d with
    | .text _ => .error .textIndexedByName
    | .list _ => .error .listIndexedByName
    | .mapping entries =>
      match Datum.lookup? (String.ofList name) entries with
      | some value => .ok value
      | none => .error (.missingKey (Text.quoted (String.ofList name)))
    | d => .error (.notIndexed d.typeName)

def follow : Nat → Datum → List Char → Except Fault Datum
  | 0, d, _ => .ok d
  | fuel + 1, d, s => do
    match ← readStep s with
    | none => return d
    | some (step, rest) => follow fuel (← step.apply d) rest

def resolve (values : Values) (name : List Char) : Except Fault Datum := do
  let first := name.takeWhile fun c => !isStepStart c
  let steps := name.drop first.length
  let number ← wholeNumber? first
  match number with
  | some n => throw (.noPosition n)
  | none =>
    if first.isEmpty then throw (.noPosition 0)
    match values.lookup (String.ofList first) with
    | none => throw (.unknownField (String.ofList first))
    | some d => follow (steps.length + 1) d steps

def convert (d : Datum) : Option Char → Except Fault Datum
  | none => .ok d
  | some 's' => .ok (.text d.plain)
  | some 'r' => .ok (.text d.literal)
  | some 'a' => .ok (.text (Text.asciiOnly d.literal))
  | some c => .error (.malformed (.unknownConversion c))

/-- Fills in one field; `inner` fills in the fields of its specification. -/
def renderField (inner : List Char → Except Fault (List Char)) (values : Values) (f : Field) :
    Except Fault (List Char) := do
  let d ← resolve values f.name
  let d ← convert d f.conversion
  let spec ← if f.nested then inner f.spec else pure f.spec
  format d spec

def renderPieces (inner : List Char → Except Fault (List Char)) (values : Values) :
    Nat → List Char → Except Fault (List Char)
  | 0, _ => .ok []
  | _, [] => .ok []
  | fuel + 1, c :: rest => do
    match nextPiece c rest with
    | .error m => throw (.malformed m)
    | .ok (.char c, rest) => return c :: (← renderPieces inner values fuel rest)
    | .ok (.field f, rest) =>
      let here ← renderField inner values f
      return here ++ (← renderPieces inner values fuel rest)

/-- Fills in a template in which fields are nested less than `depth` deep. -/
def renderNested (values : Values) : Nat → List Char → Except Fault (List Char)
  | 0, _ => .error (.malformed .nestedTooDeep)
  | depth + 1, s => renderPieces (renderNested values depth) values (s.length + 1) s

/-- The text of a template with its fields filled in. A specification may hold fields, whose own
specifications may not. -/
def render (values : Values) (template : String) : Except Fault String :=
  (renderNested values 2 template.toList).map String.ofList

end Conformance.Template
