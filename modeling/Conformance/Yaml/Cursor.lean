/-! Positions in a YAML text, and the classes of characters that structure it. -/
namespace Conformance.Yaml

def isBreak (c : Char) : Bool := c == '\n' || c == '\x85' || c == '\u2028' || c == '\u2029'

def isGap (c : Char) : Bool := c == ' ' || c == '\t'

def isAllowed (c : Char) : Bool :=
  c == '\t' || c == '\n' || (0x20 ≤ c.toNat && c.toNat ≤ 0x7E) || c == '\x85'
    || (0xA0 ≤ c.toNat && c.toNat ≤ 0xFFFD) || 0x10000 ≤ c.toNat

def isNameChar (c : Char) : Bool := c.isAlphanum || c == '-' || c == '_'

def byteOrderMark : Char := '\uFEFF'

structure Cursor where
  rest : List Char
  index : Nat
  line : Nat
  column : Nat
  deriving Inhabited

namespace Cursor

def start (s : List Char) : Cursor := ⟨s, 0, 0, 0⟩

def next (c : Cursor) : Cursor :=
  match c.rest with
  | [] => c
  | ch :: rest =>
    if isBreak ch then ⟨rest, c.index + 1, c.line + 1, 0⟩
    else if ch == byteOrderMark then ⟨rest, c.index + 1, c.line, c.column⟩
    else ⟨rest, c.index + 1, c.line, c.column + 1⟩

def skip : Nat → Cursor → Cursor
  | 0, c => c
  | n + 1, c => skip n c.next

def span (p : Char → Bool) (c : Cursor) : List Char × Cursor :=
  let run := c.rest.takeWhile p
  (run, c.skip run.length)

def skipWhile (p : Char → Bool) (c : Cursor) : Cursor := (c.span p).2

def skipSpaces (c : Cursor) : Cursor := c.skipWhile (· == ' ')

def peek? (c : Cursor) (n : Nat) : Option Char := (c.rest.drop n).head?

/-- Whether the character `n` places on is of a class; the end is of every class. -/
def endsWith (p : Char → Bool) (c : Cursor) (n : Nat) : Bool := (c.peek? n).all p

def atLineEnd (c : Cursor) : Bool := c.endsWith isBreak 0

def wordEndsAt (c : Cursor) (n : Nat) : Bool := c.endsWith (fun ch => isGap ch || isBreak ch) n

/-- A line break, if one stands here: as it counts in a text, and the point after it. -/
def lineBreak? (c : Cursor) : Option (Char × Cursor) :=
  match c.rest with
  | ch :: _ => if isBreak ch then some (if ch == '\x85' then '\n' else ch, c.next) else none
  | [] => none

def hasMarks (mark : Char) (c : Cursor) : Bool :=
  c.rest.take 3 == [mark, mark, mark] && c.wordEndsAt 3

def atDocumentMarks (c : Cursor) : Bool := c.hasMarks '-' || c.hasMarks '.'

def skipComment (c : Cursor) : Cursor :=
  if c.peek? 0 == some '#' then c.skipWhile (!isBreak ·) else c

end Cursor

end Conformance.Yaml
