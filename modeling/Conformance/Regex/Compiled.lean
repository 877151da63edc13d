import Conformance.Regex.Match
import Conformance.Regex.Reader

/-! Regular expressions as they are used: read once, matched against whole names. -/
namespace Conformance.Regex

structure Compiled where
  text : String
  expr : Expr
  deriving Repr, Inhabited

def compile? (text : String) : Option Compiled := (read? text).map (⟨text, ·⟩)

def Compiled.matchesAll (r : Compiled) (s : String) : Bool := r.expr.matchesAll s

end Conformance.Regex
