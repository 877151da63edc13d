import Conformance.Package.Pattern

/-! Matching package names against patterns. Gaps and stars take as much as they can, and give
back one character at a time when the rest of the pattern does not fit; the first fit decides
what the captures hold. -/
namespace Conformance.Package

variable {α : Type}

/-- Continues after every run of `ok` characters at the start of the text, the longest first, up
to the first success. -/
def greedy (ok : Char → Bool) (next : List Char → Option α) : List Char → Option α
  | [] => next []
  | c :: rest =>
    if ok c then
      match greedy ok next rest with
      | some found => some found
      | none => next (c :: rest)
    else next (c :: rest)

def expect (c : Char) (next : List Char → Option α) : List Char → Option α
  | [] => none
  | d :: rest => if d == c then next rest else none

def orElse (first second : List Char → Option α) (s : List Char) : Option α :=
  match first s with
  | some found => some found
  | none => second s

def consumed (s rest : List Char) : List Char := s.take (s.length - rest.length)

def capture (captured : Bool) (s : List Char) (next : List Char → Option (List (List Char)))
    (rest : List Char) : Option (List (List Char)) :=
  (next rest).map fun found => if captured then consumed s rest :: found else found

/-- The captures of the first fit of the pieces with the whole text. -/
def firstFit : List Piece → List Char → Option (List (List Char))
  | [], s => if s.isEmpty then some [] else none
  | .glob (.literal c) :: ps, s => expect c (firstFit ps) s
  | .glob (.segment captured) :: ps, s =>
    match s with
    | [] => none
    | c :: rest =>
      if isSegmentChar c then greedy isSegmentChar (capture captured s (firstFit ps)) rest
      else none
  | .glob (.segments captured) :: ps, s => greedy isPathChar (capture captured s (firstFit ps)) s
  | .leadingGap :: ps, s =>
    orElse (greedy isPathChar (expect '.' (firstFit ps))) (firstFit ps) s
  | .innerGap :: ps, s =>
    orElse (expect '.' (greedy isPathChar (expect '.' (firstFit ps)))) (expect '.' (firstFit ps)) s
  | .trailingGap :: ps, s =>
    orElse (expect '.' (greedy isPathChar (firstFit ps))) (firstFit ps) s

namespace Pattern

def captures? (p : Pattern) (package : String) : Option (List String) :=
  (firstFit p.pieces package.toList).map (·.map String.ofList)

def accepts (p : Pattern) (package : String) : Bool := (p.captures? package).isSome

/-- The slice a package falls into: its captures joined by dots, or the whole name when nothing
was captured. -/
def slice? (p : Pattern) (package : String) : Option String :=
  (p.captures? package).map fun captures =>
    match captures.filter (· != "") with
    | [] => package
    | parts => ".".intercalate parts

end Pattern

end Conformance.Package
