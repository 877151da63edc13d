import Conformance.Datum.Basic
import Conformance.Facts.Fault
import Conformance.Facts.Node

/-! Reading facts from a decoded document: a list of nodes, each perhaps with the names it depends
on, and a list of further edges. -/
namespace Conformance.Facts

/-- What a facts document says, in its own order. -/
structure Sheet where
  nodes : List Node
  edges : List (String × String)
  deriving DecidableEq, Inhabited

namespace Sheet

abbrev Entries := List (Scalar × Datum)

def readSet (entries : Entries) (key context : String) : Except Fault NameSet :=
  match Datum.lookup? key entries with
  | none | some .null => .ok .empty
  | some (.list items) => .ok (.ofList (items.map Datum.plain))
  | some _ => .error (.setNotAList s!"{context}.{key}")

/-- The list under a key; whatever is not truthy counts as an empty one. -/
def readList? (entries : Entries) (key : String) : Option (List Datum) :=
  match Datum.lookup? key entries with
  | none => some []
  | some (.list items) => some items
  | some d => if d.isTruthy then none else some []

def truthy? (entries : Entries) (key : String) : Option Datum :=
  (Datum.lookup? key entries).filter Datum.isTruthy

def plainUnder (entries : Entries) (key default : String) : String :=
  match Datum.lookup? key entries with
  | some d => d.plain
  | none => default

def readField (node : String) (d : Datum) : Except Fault Field :=
  match d with
  | .mapping entries =>
    match truthy? entries "name" with
    | none => .error (.namelessField node)
    | some name => do
      let modifiers ← readSet entries "modifiers" (nodeContext node ++ ".fields")
      return ⟨name.plain, plainUnder entries "type" "", modifiers⟩
  | _ => .error (.namelessField node)

/-- The number of parameters and, where a list gives them, their types. -/
def readParameters (node : String) (value : Option Datum) :
    Except Fault (ParameterCount × List String) :=
  match value with
  | none => .ok (.number 0, [])
  | some (.list items) => .ok (.number items.length, items.map Datum.plain)
  | some (.bool b) => .ok (.flag b, [])
  | some (.int n) => if n < 0 then .error (.badParameters node) else .ok (.number n, [])
  | some _ => .error (.badParameters node)

def readMethod (node : String) (d : Datum) : Except Fault Method :=
  match d with
  | .mapping entries =>
    match truthy? entries "name" with
    | none => .error (.namelessMethod node)
    | some name => do
      let (count, types) ← readParameters node (Datum.lookup? "parameters" entries)
      let annotations ← readSet entries "annotations" (nodeContext node ++ ".methods")
      return ⟨name.plain, count, annotations, types⟩
  | _ => .error (.namelessMethod node)

def readName (entries : Entries) (index : Nat) : Except Fault String :=
  match Datum.lookup? "name" entries with
  | some (.text name) => if name == "" then .error (.namelessNode index) else .ok name
  | _ => .error (.namelessNode index)

def readNode (entries : Entries) (index : Nat) : Except Fault (Node × NameSet) := do
  let name ← readName entries index
  let context := nodeContext name
  let kind := plainUnder entries "kind" "class"
  if !nodeKinds.contains kind then throw (.unknownKind name kind)
  match readList? entries "fields", readList? entries "methods" with
  | some fields, some methods =>
    let package := plainUnder entries "package" (packageOf name)
    let modifiers ← readSet entries "modifiers" context
    let fields ← fields.mapM (readField name)
    let methods ← methods.mapM (readMethod name)
    let capabilities ← readSet entries "implements" context
    let annotations ← readSet entries "annotations" context
    let accesses ← readSet entries "accesses" context
    let targets ← readSet entries "depends_on" context
    return (⟨name, package, kind, modifiers, fields, methods, capabilities, annotations, accesses,
      false⟩, targets)
  | _, _ => throw (.membersNotLists name)

def readNodes (index : Nat) : List Datum → Except Fault Sheet
  | [] => .ok ⟨[], []⟩
  | .mapping entries :: rest => do
    let (node, targets) ← readNode entries index
    let others ← readNodes (index + 1) rest
    return ⟨node :: others.nodes, targets.names.map (node.name, ·) ++ others.edges⟩
  | _ :: _ => .error (.nodeNotAMapping index)

def readEdges (index : Nat) : List Datum → Except Fault (List (String × String))
  | [] => .ok []
  | .mapping entries :: rest =>
    match truthy? entries "from", truthy? entries "to" with
    | some source, some target => do
      return (source.plain, target.plain) :: (← readEdges (index + 1) rest)
    | _, _ => .error (.badEdge index)
  | _ :: _ => .error (.badEdge index)

/-- What a decoded document says; null says nothing. -/
def read (d : Datum) : Except Fault Sheet :=
  match d with
  | .null => .ok ⟨[], []⟩
  | .mapping entries => do
    let nodes ← (readList? entries "nodes").elim (throw (.notAList "nodes")) pure
    let edges ← (readList? entries "edges").elim (throw (.notAList "edges")) pure
    let sheet ← readNodes 0 nodes
    return { sheet with edges := sheet.edges ++ (← readEdges 0 edges) }
  | _ => .error .notAMapping

end Sheet

end Conformance.Facts
