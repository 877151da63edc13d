import Conformance.Text.Quoted

/-! What can be wrong with the shape of a facts document. -/
namespace Conformance.Facts

inductive Fault
  | notAMapping
  | notAList (key : String)
  | nodeNotAMapping (index : Nat)
  | namelessNode (index : Nat)
  | unknownKind (node kind : String)
  | membersNotLists (node : String)
  | setNotAList (context : String)
  | namelessField (node : String)
  | namelessMethod (node : String)
  | badParameters (node : String)
  | badEdge (index : Nat)
  deriving DecidableEq, Repr

def nodeContext (name : String) : String := s!"facts: node '{name}'"

def nodeKinds : List String := ["annotation", "class", "enum", "interface"]

def quotedList (items : List String) : String :=
  "[" ++ ", ".intercalate (items.map Text.quoted) ++ "]"

def Fault.message : Fault → String
  | notAMapping => "facts document must be a mapping"
  | notAList key => s!"facts: '{key}' must be a list"
  | nodeNotAMapping index => s!"facts: node at index {index} must be a mapping"
  | namelessNode index => s!"facts: node at index {index} missing required 'name' field"
  | unknownKind node kind =>
    nodeContext node ++ s!": invalid kind '{kind}', must be one of " ++ quotedList nodeKinds
  | membersNotLists node => nodeContext node ++ ": 'fields' and 'methods' must be lists"
  | setNotAList context => s!"{context} must be a list"
  | namelessField node => nodeContext node ++ ".fields: field must be a mapping with a 'name'"
  | namelessMethod node => nodeContext node ++ ".methods: method must be a mapping with a 'name'"
  | badParameters node =>
    nodeContext node ++ ".methods: 'parameters' must be a non-negative int or a list"
  | badEdge index => s!"facts: edge at index {index} must be a mapping with 'from' and 'to'"

end Conformance.Facts
