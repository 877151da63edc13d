import Conformance.Facts.Node
import Conformance.Failure
import Conformance.Named
import Conformance.Text.Pair

/-! The fact graph: a snapshot of nodes and dependency edges in a fixed order, and its queries.
A snapshot with two nodes of one name can be built, and every query on it fails. -/
namespace Conformance.Facts

/-- The pairs of different names, each once, in increasing order. -/
def sortedPairs (pairs : List (String × String)) : List (String × String) :=
  Text.sortPairs (pairs.filter fun p => p.1 != p.2)

/-- Nodes in order of their names; nodes of one name stay in the order given. -/
def sortedNodes (nodes : List Node) : List Node := nodes.mergeSort fun a b => a.name ≤ b.name

/-- The items that satisfy a test, which is asked in order and may fail. -/
def select {α : Type} (p : α → Except Failure Bool) : List α → Except Failure (List α)
  | [] => .ok []
  | x :: rest => do
    let keep ← p x
    let others ← select p rest
    return if keep then x :: others else others

@[simp] theorem select_pure {α : Type} (p : α → Bool) (xs : List α) :
    select (fun x => .ok (p x)) xs = .ok (xs.filter p) := by
  induction xs with
  | nil => rfl
  | cons x rest ih =>
    simp only [select, ih, List.filter_cons]
    cases p x <;> rfl

/-- The nodes and edges in order. Queries go by three indexes beside them: the first node of each
name, the names that each name has an edge to, and the names that more than one node has. -/
structure Graph where
  nodes : List Node
  edges : List Edge
  byName : Named Node
  targets : Named NameSet
  duplicates : List String
  deriving DecidableEq, Inhabited

namespace Graph

def ofNodes (nodes : List Node) : Graph :=
  let counts := Tally.ofList (nodes.map (·.name))
  { nodes
    edges := []
    byName := nodes.foldl (fun index n => index.putNew n.name n) []
    targets := []
    duplicates := (NameSet.ofList ((counts.filter fun e => 1 < e.2).map (·.1))).names }

/-- The node that an edge's end stands for: the first of that name, or an external one. -/
def endOf (g : Graph) (name : String) : Node := (g.byName.find? name).getD (.external name)

def targetsOf (g : Graph) (source : String) : NameSet := (g.targets.find? source).getD .empty

def link (g : Graph) (p : String × String) : Graph :=
  { g with
    edges := g.edges ++ [⟨g.endOf p.1, g.endOf p.2⟩]
    targets := g.targets.put p.1 ((g.targetsOf p.1).insert p.2) }

def ofSorted (nodes : List Node) (pairs : List (String × String)) : Graph :=
  pairs.foldl link (ofNodes nodes)

/-- The snapshot of some nodes and of the dependencies between names. Duplicate dependencies
collapse, and a dependency of a name on itself is dropped. -/
def build (nodes : List Node) (pairs : List (String × String)) : Graph :=
  ofSorted (sortedNodes nodes) (sortedPairs pairs)

def validate (g : Graph) : Except Failure Unit :=
  if g.duplicates.isEmpty then .ok () else .error (.duplicateNodes g.duplicates)

def node? (g : Graph) (name : String) : Except Failure (Option Node) := do
  g.validate
  return g.byName.find? name

def nodesWhere (g : Graph) (p : Node → Except Failure Bool) : Except Failure (List Node) := do
  g.validate
  select p (g.nodes.filter fun n => !n.isExternal)

def edgesWhere (g : Graph) (p : Edge → Except Failure Bool) : Except Failure (List Edge) := do
  g.validate
  select p g.edges

/-- The methods of one type that satisfy a test, with their ordinals. `counts` tells how often each
signature occurs in the type, the next argument how often those that repeat have been passed. -/
def selectMethods (p : MethodRef → Except Failure Bool) (owner : Node) (counts : Tally) :
    Tally → List Method → Except Failure (List MethodRef)
  | _, [] => .ok []
  | seen, m :: rest => do
    let isRepeated := 1 < counts.count m.signature
    let seen := if isRepeated then seen.add m.signature else seen
    let r : MethodRef := ⟨owner, m, if isRepeated then seen.count m.signature else 0⟩
    let keep ← p r
    let others ← selectMethods p owner counts seen rest
    return if keep then r :: others else others

def selectMethodsOf (p : MethodRef → Except Failure Bool) :
    List Node → Except Failure (List MethodRef)
  | [] => .ok []
  | n :: rest => do
    let here ← selectMethods p n (.ofList (n.methods.map Method.signature)) [] n.methods
    let others ← selectMethodsOf p rest
    return here ++ others

def methodsWhere (g : Graph) (p : MethodRef → Except Failure Bool) :
    Except Failure (List MethodRef) := do
  g.validate
  selectMethodsOf p g.nodes

def fieldOf? (g : Graph) (node : Node) (name : String) : Except Failure (Option Field) := do
  g.validate
  return node.fields.find? (·.name == name)

def hasEdge (g : Graph) (source target : String) : Bool := target ∈ g.targetsOf source

def dependsOn (g : Graph) (source target : String) : Except Failure Bool := do
  g.validate
  return g.hasEdge source target

/-- The snapshot without the nodes that satisfy a test. Dependencies of a removed node go with
it; dependencies on it stay, and lead to an external node. -/
def excluding (g : Graph) (p : Node → Except Failure Bool) : Except Failure Graph := do
  let matching ← select p g.nodes
  let removed := matching.map (·.name)
  let kept := g.nodes.filter fun n => !removed.contains n.name
  let pairs := (g.edges.map Edge.names).filter fun e => !removed.contains e.1
  return build kept pairs

end Graph

end Conformance.Facts
