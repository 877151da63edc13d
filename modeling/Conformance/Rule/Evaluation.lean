import Conformance.Rule.Validation

/-! Evaluating rules against a fact graph. -/
namespace Conformance

open Facts

/-- Stands for a selection as a whole where a violation concerns its size. -/
def wholeSelection : String := "<selection>"

namespace Rule

def values (r : Rule) (item : String) (actual : Nat) (expected : Datum) (source target : String) :
    Template.Values :=
  [("rule", .text r.name), ("item", .text item),
    ("condition", .text ((r.condition.map Predicate.description).getD "")), ("actual", .int actual),
    ("expected", expected), ("source", .text source), ("target", .text target)]

def violation (r : Rule) (item : String) (values : Template.Values) : Except Failure Violation :=
  match Template.render values r.template with
  | .ok message => .ok ⟨r.name, item, message⟩
  | .error fault => .error (.template fault)

structure Selected where
  identifier : String
  item : Item
  deriving Inhabited

def select (r : Rule) (g : Graph) : Except Failure (List Selected) :=
  match r.scope with
  | .nodes => do
    let nodes ← g.nodesWhere fun n => r.selection.test (.node n)
    return nodes.map fun n => ⟨n.name, .node n⟩
  | .edges => do
    let edges ← g.edgesWhere fun e => r.selection.test (.edge e)
    return edges.map fun e => ⟨e.identifier, .edge e⟩
  | .methods => do
    let methods ← g.methodsWhere fun m => r.selection.test (.method m)
    return methods.map fun m => ⟨m.identifier, .method m⟩

/-- Nodes that count as one for a rule of independence. -/
structure DependencyUnit where
  name : String
  members : List Node
  deriving Inhabited

def addToUnit (name : String) (node : Node) : List DependencyUnit → List DependencyUnit
  | [] => [⟨name, [node]⟩]
  | u :: rest =>
    if name == u.name then ⟨u.name, u.members ++ [node]⟩ :: rest
    else if name < u.name then ⟨name, [node]⟩ :: u :: rest
    else u :: addToUnit name node rest

/-- Each node by itself, or, with a slice pattern, the nodes of each slice. -/
def units (slices : Option String) (nodes : List Node) : List DependencyUnit :=
  match slices with
  | none => nodes.map fun n => ⟨n.name, [n]⟩
  | some pattern =>
    let p := Package.Pattern.ofString pattern
    nodes.foldl (fun us n =>
      match p.slice? n.package with
      | some name => addToUnit name n us
      | none => us) []

def DependencyUnit.dependsOn (g : Graph) (x y : DependencyUnit) : Bool :=
  x.members.any fun a => y.members.any fun b => g.hasEdge a.name b.name

def dependentPairs (g : Graph) (us : List DependencyUnit) : List (String × String) :=
  us.flatMap fun x => (us.filter fun y => x.name != y.name && x.dependsOn g y).map fun y =>
    (x.name, y.name)

def unitPart (slices : Option String) : String :=
  if slices.isNone then "qualified_name" else "package"

def evaluateIndependent (r : Rule) (g : Graph) (selected : List Selected) :
    Except Failure (List Violation) := do
  let nodes ← selected.mapM fun s => s.item.node? (unitPart r.slices)
  (dependentPairs g (units r.slices nodes)).mapM fun (x, y) =>
    let item := Edge.identifierOf x y
    r.violation item (r.values item 0 (.int 0) x y)

def expects (r : Rule) (count : Nat) : Bool :=
  match r.expected with
  | .scalar s => (Scalar.int count).same s
  | _ => false

def evaluateCount (r : Rule) (selected : List Selected) : Except Failure (List Violation) :=
  if r.expects selected.length then .ok []
  else do
    let values := r.values wholeSelection selected.length r.expected "" ""
    return [← r.violation wholeSelection values]

def endNames : Item → String × String
  | .edge e => e.names
  | _ => ("", "")

/-- The violations by items whose condition does not come out as wanted. -/
def evaluateEach (r : Rule) (condition : Predicate) (wanted : Bool) :
    List Selected → Except Failure (List Violation)
  | [] => .ok []
  | s :: rest => do
    if (← condition.test s.item) == wanted then evaluateEach r condition wanted rest
    else
      let (source, target) := endNames s.item
      let v ← r.violation s.identifier (r.values s.identifier 0 (.int 0) source target)
      return v :: (← evaluateEach r condition wanted rest)

/-- The violations of a rule in graph order. Fails on a broken graph. -/
def evaluate (r : Rule) (g : Graph) : Except Failure (List Violation) := do
  let selected ← r.select g
  match r.kind with
  | .count => r.evaluateCount selected
  | .independent => r.evaluateIndependent g selected
  | .all | .none =>
    match r.condition with
    | some condition => r.evaluateEach condition (r.kind == .all) selected
    | none => throw .missingCondition

end Rule

end Conformance
