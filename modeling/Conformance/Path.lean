import Conformance.Text.Split

/-! Paths of files and directories. -/
namespace Conformance

structure Path where
  root : String
  names : List String
  deriving DecidableEq, Repr, Inhabited

namespace Path

/-- The start of a path: two slashes differ from one, and from three on there is no difference. -/
def rootOf : List Char → String
  | '/' :: '/' :: '/' :: _ => "/"
  | '/' :: '/' :: _ => "//"
  | '/' :: _ => "/"
  | _ => ""

def ofString (s : String) : Path :=
  let names := (Text.splitAtEach '/' s.toList).map String.ofList
  ⟨rootOf s.toList, names.filter fun name => name != "" && name != "."⟩

def isAbsolute (p : Path) : Bool := p.root != ""

def join (p q : Path) : Path := if q.isAbsolute then q else ⟨p.root, p.names ++ q.names⟩

def child (p : Path) (name : String) : Path := p.join (ofString name)

def parent (p : Path) : Path := ⟨p.root, p.names.dropLast⟩

def text (p : Path) : String :=
  if p.root == "" && p.names.isEmpty then "." else p.root ++ "/".intercalate p.names

end Path

end Conformance
