import Conformance.Text.Class
import Conformance.Text.Split

/-! Patterns over dotted package names: `..` stands for any number of packages, `*` for one
package segment, `**` for any run of segments, and parentheses around either capture what it
stands for. -/
namespace Conformance.Package

def isSegmentChar (c : Char) : Bool := Text.isWord c || c == '$'

def isPathChar (c : Char) : Bool := isSegmentChar c || c == '.'

inductive Glob
  | literal (c : Char)
  | segment (captured : Bool)
  | segments (captured : Bool)
  deriving DecidableEq, Repr

def Glob.read : List Char → List Glob
  | '(' :: '*' :: '*' :: ')' :: rest => .segments true :: read rest
  | '(' :: '*' :: ')' :: rest => .segment true :: read rest
  | '*' :: '*' :: rest => .segments false :: read rest
  | '*' :: rest => .segment false :: read rest
  | c :: rest => .literal c :: read rest
  | [] => []

/-- One step of a pattern. A leading gap takes the dot after it, a trailing gap the dot before
it, and an inner gap the dots on both sides. -/
inductive Piece
  | glob (g : Glob)
  | leadingGap
  | innerGap
  | trailingGap
  deriving DecidableEq, Repr

def Piece.afterGap (previous : List Char) : List (List Char) → List Piece
  | [] => []
  | part :: parts =>
    let here :=
      if part.isEmpty then [.trailingGap]
      else if previous.isEmpty then (Glob.read part).map .glob
      else .innerGap :: (Glob.read part).map .glob
    here ++ afterGap part parts

structure Pattern where
  pieces : List Piece
  deriving DecidableEq, Repr

namespace Pattern

/-- A pattern without anything but dots stands for every package. -/
def ofChars (s : List Char) : Pattern :=
  if s.all (· == '.') then ⟨[.glob (.segments false)]⟩
  else match Text.splitDoubleDots s with
    | [] => ⟨[]⟩
    | first :: rest =>
      let start := if first.isEmpty then [.leadingGap] else (Glob.read first).map .glob
      ⟨start ++ Piece.afterGap first rest⟩

def ofString (s : String) : Pattern := ofChars s.toList

end Pattern

end Conformance.Package
