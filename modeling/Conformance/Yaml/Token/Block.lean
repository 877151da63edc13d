import Conformance.Yaml.Cursor
import Conformance.Yaml.Fault

/-! Scalars in blocks of lines, literal or folded. -/
namespace Conformance.Yaml.Token

inductive Chomping
  | strip
  | clip
  | keep
  deriving DecidableEq, Repr, Inhabited

def chomping? : Char → Option Chomping
  | '+' => some .keep
  | '-' => some .strip
  | _ => none

def indentationDigit? (c : Char) : Option Nat :=
  if c.isDigit then some (c.toNat - '0'.toNat) else none

def blockHeader (c : Cursor) : Except Fault ((Chomping × Option Nat) × Cursor) :=
  let digit (c : Cursor) : Option Nat := (c.peek? 0).bind indentationDigit?
  let chomping (c : Cursor) : Option Chomping := (c.peek? 0).bind chomping?
  let (chomp, increment, c) : Option Chomping × Option Nat × Cursor :=
    match chomping c, digit c with
    | some found, _ =>
      match digit c.next with
      | some n => (some found, some n, c.skip 2)
      | none => (some found, none, c.next)
    | none, some n =>
      match chomping c.next with
      | some found => (some found, some n, c.skip 2)
      | none => (none, some n, c.next)
    | none, none => (none, none, c)
  if increment == some 0 || !c.endsWith (fun ch => ch == ' ' || isBreak ch) 0 then .error .malformed
  else .ok ((chomp.getD .clip, increment), c)

def ignoredLine (c : Cursor) : Except Fault Cursor :=
  let c := c.skipSpaces.skipComment
  if c.atLineEnd then .ok ((c.lineBreak?.map (·.2)).getD c) else .error .malformed

def indentTo (column : Nat) (c : Cursor) : Cursor :=
  c.skip (min (column - c.column) (c.rest.takeWhile (· == ' ')).length)

def leadingLines : Nat → Cursor → List Char × Nat × Cursor
  | 0, c => ([], 0, c)
  | fuel + 1, c =>
    let c := c.skipSpaces
    match c.lineBreak? with
    | some (ch, after) =>
      let (breaks, deepest, rest) := leadingLines fuel after
      (ch :: breaks, max c.column deepest, rest)
    | none => ([], c.column, c)

/-- Empty lines that are indented no further than `column`, and the indentation after them. -/
def emptyLines (column : Nat) : Nat → Cursor → List Char × Cursor
  | 0, c => ([], c)
  | fuel + 1, c =>
    let c := indentTo column c
    match c.lineBreak? with
    | some (ch, c) =>
      let (breaks, c) := emptyLines column fuel c
      (ch :: breaks, c)
    | none => ([], c)

/-- The lines of a block at a column. Between two lines of a folded block that both begin with
other characters than gaps a single break is a space, and more are one fewer. The end is told
apart: the last line break, if there is one, and the empty lines after it. -/
def blockLines (isFolded : Bool) (column : Nat) :
    Nat → Cursor → List Char × (List Char × List Char) × Cursor
  | 0, c => ([], ([], []), c)
  | fuel + 1, c =>
    let startsDense (c : Cursor) : Bool := !c.endsWith isGap 0
    let dense := startsDense c
    let (line, c) := c.span (!isBreak ·)
    let (ending, c) := match c.lineBreak? with
      | some (ch, c) => ([ch], c)
      | none => ([], c)
    let (breaks, c) := emptyLines column (fuel + 1) c
    if c.column == column && !c.rest.isEmpty then
      let joint :=
        if isFolded && ending == ['\n'] && dense && startsDense c then
          if breaks.isEmpty then [' '] else []
        else ending
      let (others, tail, c) := blockLines isFolded column fuel c
      (line ++ joint ++ breaks ++ others, tail, c)
    else (line, (ending, breaks), c)

def block (isFolded : Bool) (indent : Int) (c : Cursor) : Except Fault (String × Cursor) := do
  let ((chomp, increment), c) ← blockHeader c.next
  let c ← ignoredLine c
  let least := (max (indent + 1) 1).toNat
  let fuel := c.rest.length + 1
  let (column, breaks, c) := match increment with
    | none =>
      let (breaks, deepest, c) := leadingLines fuel c
      (max least deepest, breaks, c)
    | some n =>
      let column := least + n - 1
      let (breaks, c) := emptyLines column fuel c
      (column, breaks, c)
  let (text, (ending, after), c) :=
    if c.column == column && !c.rest.isEmpty then
      let (text, tail, c) := blockLines isFolded column fuel c
      (breaks ++ text, tail, c)
    else ([], ([], breaks), c)
  let tail := match chomp with
    | .strip => []
    | .clip => ending
    | .keep => ending ++ after
  return (String.ofList (text ++ tail), c)

end Conformance.Yaml.Token
