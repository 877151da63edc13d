import Conformance.Text.CodeUnit
import Conformance.Text.Digit
import Conformance.Yaml.Cursor
import Conformance.Yaml.Fault

/-! Scalars between quotes. Line breaks inside them fold to spaces. -/
namespace Conformance.Yaml.Token

def shortEscape? : Char → Option Char
  | '0' => some '\x00'
  | 'a' => some '\x07'
  | 'b' => some '\x08'
  | 't' => some '\t'
  | '\t' => some '\t'
  | 'n' => some '\n'
  | 'v' => some '\x0b'
  | 'f' => some '\x0c'
  | 'r' => some '\r'
  | 'e' => some '\x1b'
  | ' ' => some ' '
  | '"' => some '"'
  | '\\' => some '\\'
  | '/' => some '/'
  | 'N' => some '\x85'
  | '_' => some '\xa0'
  | 'L' => some '\u2028'
  | 'P' => some '\u2029'
  | _ => none

def escapeDigits? : Char → Option Nat
  | 'x' => some 2
  | 'u' => some 4
  | 'U' => some 8
  | _ => none

def hexEscape (count : Nat) (c : Cursor) : Except Fault (Nat × Cursor) :=
  let digits := c.rest.take count
  if digits.length < count then .error .malformed
  else match Text.hexNumber? digits with
    | none => .error .malformed
    | some code =>
      if 0x110000 ≤ code then .error (.badValue "chr() arg not in range(0x110000)")
      else .ok (code, c.skip count)

def foldedBreaks : Nat → Cursor → Except Fault (List Char × Cursor)
  | 0, _ => .error .malformed
  | fuel + 1, c =>
    if c.atDocumentMarks then .error .malformed
    else
      let c := c.skipWhile isGap
      match c.lineBreak? with
      | some (ch, c) => do
        let (breaks, c) ← foldedBreaks fuel c
        return (ch :: breaks, c)
      | none => .ok ([], c)

/-- How a line break counts together with those right after it. -/
def folded (first : Char) (others : List Char) : List Char :=
  if first != '\n' then first :: others
  else if others.isEmpty then [' '] else others

def joinHalves : List Nat → List Char
  | high :: low :: rest =>
    if Text.isHigh high && Text.isLow low then
      Char.ofNat (Text.joinUnits high low) :: joinHalves rest
    else Text.unitChar high :: joinHalves (low :: rest)
  | [unit] => [Text.unitChar unit]
  | [] => []

def codes (cs : List Char) : List Nat := cs.map Char.toNat

def quotedCodes (isDouble : Bool) : Nat → Cursor → Except Fault (List Nat × Cursor)
  | 0, _ => .error .malformed
  | fuel + 1, c =>
    match c.rest with
    | [] => .error .malformed
    | ch :: following =>
      let more (before : List Nat) (c : Cursor) : Except Fault (List Nat × Cursor) := do
        let (after, c) ← quotedCodes isDouble fuel c
        return (before ++ after, c)
      if ch == (if isDouble then '"' else '\x27') then
        if !isDouble && following.head? == some '\x27' then more [0x27] (c.skip 2)
        else .ok ([], c.next)
      else if isDouble && ch == '\\' then
        match following with
        | [] => .error .malformed
        | e :: _ =>
          match shortEscape? e, escapeDigits? e with
          | some x, _ => more [x.toNat] (c.skip 2)
          | none, some count => do
            let (code, c) ← hexEscape count (c.skip 2)
            more [code] c
          | none, none =>
            if isBreak e then do
              let (breaks, c) ← foldedBreaks (fuel + 1) (c.skip 2)
              more (codes breaks) c
            else .error .malformed
      else if isGap ch || isBreak ch then
        let (white, c) := c.span isGap
        match c.lineBreak? with
        | some (first, c) => do
          let (others, c) ← foldedBreaks (fuel + 1) c
          more (codes (folded first others)) c
        | none => more (codes white) c
      else more [ch.toNat] c.next

def quoted (isDouble : Bool) (c : Cursor) : Except Fault (String × Cursor) := do
  let (found, c) ← quotedCodes isDouble (c.rest.length + 1) c.next
  return (String.ofList (joinHalves found), c)

end Conformance.Yaml.Token
