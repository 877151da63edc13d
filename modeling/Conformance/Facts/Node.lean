import Conformance.Facts.NameSet
import Conformance.Text.Split

/-! The facts known about a code base: types with their fields and methods, and dependencies. -/
namespace Conformance.Facts

def packageOf (name : String) : String :=
  match Text.splitLast? '.' name.toList with
  | some (package, _) => String.ofList package
  | none => ""

def simpleNameOf (name : String) : String :=
  match Text.splitLast? '.' name.toList with
  | some (_, simple) => String.ofList simple
  | none => name

structure Field where
  name : String
  type : String
  modifiers : NameSet
  deriving DecidableEq, Inhabited

/-- How many parameters a method has. A truth value counts as 0 or 1 and keeps its spelling. -/
inductive ParameterCount
  | number (n : Int)
  | flag (b : Bool)
  deriving DecidableEq, Repr

namespace ParameterCount

instance : Inhabited ParameterCount := ⟨number 0⟩

def value : ParameterCount → Int
  | number n => n
  | flag b => if b then 1 else 0

def plain : ParameterCount → String
  | number n => toString n
  | flag b => if b then "True" else "False"

end ParameterCount

structure Method where
  name : String
  count : ParameterCount
  annotations : NameSet
  types : List String
  deriving DecidableEq, Inhabited

/-- The name with the parameter types, or with their number where the types are not known. -/
def Method.signature (m : Method) : String :=
  if m.types.isEmpty then s!"{m.name}({m.count.plain})"
  else s!"{m.name}(" ++ ", ".intercalate m.types ++ ")"

/-- One type of the code base. An external node stands for the target of a dependency that the
snapshot does not describe. -/
structure Node where
  name : String
  package : String
  kind : String
  modifiers : NameSet
  fields : List Field
  methods : List Method
  capabilities : NameSet
  annotations : NameSet
  accesses : NameSet
  isExternal : Bool
  deriving DecidableEq, Inhabited

namespace Node

def simpleName (n : Node) : String := simpleNameOf n.name

def external (name : String) : Node :=
  ⟨name, packageOf name, "class", .empty, [], [], .empty, .empty, .empty, true⟩

end Node

structure Edge where
  source : Node
  target : Node
  deriving DecidableEq, Inhabited

namespace Edge

def identifierOf (source target : String) : String := s!"{source} -> {target}"

def identifier (e : Edge) : String := identifierOf e.source.name e.target.name

def names (e : Edge) : String × String := (e.source.name, e.target.name)

end Edge

/-- A method with the type that declares it. The ordinal counts the methods of that type with the
same signature from 1, and is 0 where the signature occurs once. -/
structure MethodRef where
  owner : Node
  method : Method
  ordinal : Nat
  deriving DecidableEq, Inhabited

def MethodRef.identifier (r : MethodRef) : String :=
  let base := s!"{r.owner.name}." ++ r.method.signature
  if r.ordinal = 0 then base else s!"{base}#{r.ordinal}"

end Conformance.Facts
